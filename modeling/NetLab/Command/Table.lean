import NetLab.Command.Keyword
import NetLab.Command.Mode
import NetLab.Command.Refusal
import NetLab.Text.Digit

set_option autoImplicit false

/-!
# The command table

Every mode has its own commands, followed by those that every mode has.  A line means the first
command of the table that it matches, so the order of the table decides between commands that
share an abbreviation.
-/

namespace NetLab

/-- What a command does. -/
inductive Action where
  | enable
  | disable
  | configure
  | ping
  | showVersion
  | showRunningConfig
  | showVlan
  | showInterfaces
  | showHistory
  | reload
  | vlanOutsideConfig
  | hostname
  | interface
  | vlan
  | noVlan
  | routing (enabled : Bool)
  | domainName
  | line
  | shutdown (down : Bool)
  | portMode
  | accessVlan
  | trunkAllowed
  | trunkNative
  | address
  | noAddress
  | description
  | noDescription
  | vlanName
  | password
  | noPassword
  | login (required : Bool)
  | exit
  | finish
  | help
  /-- run the rest of the line as a privileged command -/
  | exec
  | clear
  deriving DecidableEq, Repr, Inhabited

/-- A command of the table. -/
structure Command where
  /-- its keywords in full -/
  canonical : String
  action : Action
  help : String := ""
  minArgs : Nat := 0
  maxArgs : Option Nat := none
  /-- the command is shown by `help` -/
  listed : Bool := true
  deriving DecidableEq, Repr, Inhabited

namespace Command

/-- The keywords of the command. -/
def keywords (c : Command) : List String := Text.words c.canonical

/-- The commands of user mode. -/
def ofUser : List Command := [
  { canonical := "enable", action := .enable, help := "Turn on privileged commands" },
  { canonical := "ping", action := .ping, help := "Send echo messages", minArgs := 1 },
  { canonical := "show version", action := .showVersion,
    help := "System hardware and software status" }]

/-- The commands of privileged mode. -/
def ofPrivileged : List Command := [
  { canonical := "configure terminal", action := .configure, help := "Enter configuration mode" },
  { canonical := "disable", action := .disable, help := "Turn off privileged commands" },
  { canonical := "show running-config", action := .showRunningConfig,
    help := "Show current config" },
  { canonical := "show vlan brief", action := .showVlan, help := "Show VLAN information" },
  { canonical := "show vlan", action := .showVlan, help := "Show VLAN information",
    listed := false },
  { canonical := "show ip interface brief", action := .showInterfaces,
    help := "IP interface status" },
  { canonical := "show version", action := .showVersion,
    help := "System hardware and software status" },
  { canonical := "show history", action := .showHistory,
    help := "Display the session command history" },
  { canonical := "ping", action := .ping, help := "Send echo messages", minArgs := 1 },
  { canonical := "reload", action := .reload, help := "Halt and perform a cold restart" },
  { canonical := "vlan", action := .vlanOutsideConfig, listed := false }]

/-- The commands of global configuration mode. -/
def ofConfig : List Command := [
  { canonical := "hostname", action := .hostname, help := "Set system network name",
    minArgs := 1 },
  { canonical := "interface", action := .interface, help := "Select interface to configure",
    minArgs := 1 },
  { canonical := "vlan", action := .vlan, help := "VLAN configuration mode", minArgs := 1 },
  { canonical := "no vlan", action := .noVlan, help := "Delete a VLAN", minArgs := 1 },
  { canonical := "ip routing", action := .routing true, help := "Enable IP routing" },
  { canonical := "no ip routing", action := .routing false, help := "Disable IP routing" },
  { canonical := "ip domain-name", action := .domainName,
    help := "Define the default domain name", minArgs := 1 },
  { canonical := "line", action := .line, help := "Configure a terminal line", minArgs := 1 }]

/-- The commands of interface mode. -/
def ofInterface : List Command := [
  { canonical := "shutdown", action := .shutdown true, help := "Shutdown the selected interface",
    maxArgs := some 0 },
  { canonical := "no shutdown", action := .shutdown false,
    help := "Restart the selected interface", maxArgs := some 0 },
  { canonical := "switchport mode", action := .portMode,
    help := "Set trunking mode of the interface", minArgs := 1 },
  { canonical := "switchport access vlan", action := .accessVlan,
    help := "Set VLAN when interface is in access mode", minArgs := 1 },
  { canonical := "switchport trunk allowed vlan", action := .trunkAllowed,
    help := "Set allowed VLANs when trunking", minArgs := 1 },
  { canonical := "switchport trunk native vlan", action := .trunkNative,
    help := "Set native VLAN when trunking", minArgs := 1 },
  { canonical := "ip address", action := .address,
    help := "Set the IP address of an interface" },
  { canonical := "no ip address", action := .noAddress, help := "Remove the IP address",
    maxArgs := some 0 },
  { canonical := "description", action := .description,
    help := "Interface specific description", minArgs := 1 },
  { canonical := "no description", action := .noDescription, help := "Remove the description",
    maxArgs := some 0 },
  { canonical := "interface", action := .interface, help := "Select another interface",
    minArgs := 1 }]

/-- The commands of VLAN mode. -/
def ofVlan : List Command := [
  { canonical := "name", action := .vlanName, help := "Ascii name of the VLAN", minArgs := 1 }]

/-- The commands of line mode. -/
def ofLine : List Command := [
  { canonical := "password", action := .password, help := "Set a password", minArgs := 1 },
  { canonical := "no password", action := .noPassword, help := "Remove the password",
    maxArgs := some 0 },
  { canonical := "login", action := .login true, help := "Enable password checking",
    maxArgs := some 0 },
  { canonical := "no login", action := .login false, help := "Disable password checking",
    maxArgs := some 0 }]

/-- The commands that every mode has. -/
def ofEveryMode : List Command := [
  { canonical := "exit", action := .exit, help := "Exit from the current mode" },
  { canonical := "end", action := .finish, help := "Exit to privileged EXEC mode" },
  { canonical := "?", action := .help, listed := false },
  { canonical := "help", action := .help,
    help := "Description of the interactive help system" },
  { canonical := "do", action := .exec, help := "Run an exec-mode command", minArgs := 1 },
  { canonical := "clear", action := .clear, help := "Clear the terminal screen",
    listed := false },
  { canonical := "cls", action := .clear, listed := false }]

/-- The commands that only one mode has. -/
def own : Mode → List Command
  | .user => ofUser
  | .privileged => ofPrivileged
  | .config => ofConfig
  | .interface => ofInterface
  | .vlan => ofVlan
  | .line => ofLine
  | .other _ => []

/-- The command table of a mode. -/
def table (m : Mode) : List Command := own m ++ ofEveryMode

/-! ## Looking up a line -/

/-- The first command that the words match, with its arguments. -/
def resolve (m : Mode) (words : List String) : Option (Command × List String) :=
  (table m).findSome? fun c => (Keyword.matchWords c.keywords words).map fun args => (c, args)

/-- Why words that match no command are refused. -/
def unmatched (m : Mode) (words : List String) : Refusal :=
  if (table m).any fun c => Keyword.isUnfinished c.keywords words then .incomplete
  else if m.isExec then .unknownCommand
  else
    match m, words with
    | .vlan, w :: _ =>
      if Text.lower w = "vlan" || (w ≠ "" && w.toList.all Text.isDigitLike) then .nestedVlan
      else .invalidInput
    | _, _ => .invalidInput

/-- The help text of a mode. -/
def helpText (m : Mode) : String :=
  let heading := if m.isExec then "Exec commands:" else "Configure commands:"
  "\n".intercalate (heading :: ((table m).filter (·.listed)).map fun c =>
    "  " ++ Text.padRight 20 c.canonical ++ " " ++ c.help)

end Command

end NetLab
