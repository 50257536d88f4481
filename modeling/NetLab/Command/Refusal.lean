import NetLab.Network.Configure

set_option autoImplicit false

/-!
# Refusals

What a device prints instead of doing what a line says.  Every refusal starts with a percent sign
and a space; notices of interface changes, which start with a percent sign and a word, are none.
-/

namespace NetLab

/-- Why a line was not carried out. -/
inductive Refusal where
  /-- no exec command starts like this -/
  | unknownCommand
  /-- more words are needed -/
  | incomplete
  /-- the words are not what the command takes -/
  | invalidInput
  /-- VLANs are made in configuration mode -/
  | vlanNeedsConfig
  /-- a VLAN was opened while another one is open -/
  | nestedVlan
  /-- the VLAN table could not be changed -/
  | rejected (r : Rejection)
  deriving DecidableEq, Repr, Inhabited

namespace Refusal

/-- What the device prints. -/
def message : Refusal → String
  | unknownCommand => "% Unknown command"
  | incomplete => "% Incomplete command."
  | invalidInput => "% Invalid input detected at marker."
  | vlanNeedsConfig =>
    "% Incomplete command. Use \"configure terminal\" first."
  | nestedVlan =>
    "% Invalid input. Type \"exit\" to return to global config mode first."
  | rejected r => r.message

end Refusal

/-- The output of a line is an error. -/
def isErrorOutput (output : String) : Bool := ['%', ' '].isPrefixOf output.toList

end NetLab
