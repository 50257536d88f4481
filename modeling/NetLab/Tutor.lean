import NetLab.Schema.Checked

set_option autoImplicit false

/-!
# The tutor

An advisor that asks a language model for a tip on a failed command.  It does so only if it has a
key for the model's service, to which it connects once, at the first question.
-/

namespace NetLab

namespace Tutor

/-- What the model is told before every question. -/
def instructions : String :=
  "You are a Cisco IOS tutor embedded in a network simulator terminal.\n\nYou will receive a command the student typed and the error the device printed.\nReply with a short tip (one or two sentences) telling the student what to type\ninstead, or which mode to enter first. Mention the exact corrected command when\nyou can. Do not repeat the error text.\n\nAlways return JSON matching the CLIHint schema (no extra keys)."

/-- The model that is asked unless another one is named. -/
def usualModel : String := "gpt-4o-mini"

/-- A text as a part of a message. -/
def part (s : String) : Value := .record [("type", .text "input_text"), ("text", .text s)]

/-- A message: who speaks, and what. -/
def message (role : String) (parts : List String) : Value :=
  .record [("role", .text role), ("content", .list (parts.map part))]

/-- The question on a failed command. -/
def question (command error : String) : Value :=
  .list [message "system" [instructions],
    message "user" ["COMMAND:\n" ++ command, "ERROR:\n" ++ error]]

/-- What goes out to the service. -/
inductive Sent where
  /-- a connection is made with a key -/
  | connect (key : String)
  /-- a model is asked -/
  | ask (model input : Value)
  deriving DecidableEq, Repr, Inhabited

/-- What comes back from the service. -/
inductive Answer where
  /-- nothing that could be read -/
  | nothing
  /-- the service fails -/
  | failed (text : String)
  /-- a document that should hold a tip -/
  | document (v : Value)
  deriving DecidableEq, Repr, Inhabited

/-- Read a document that holds a tip. -/
def hint : Schema.Reader String :=
  Schema.model "CLIHint" ["tip"] fun fs => Schema.required "tip" Schema.text fs

/-- The tip in an answer, without the blanks around it; a blank tip is none. -/
def tipOf : Answer → Except Fault (Option String)
  | .nothing => .ok none
  | .failed text => .error (.service text)
  | .document v =>
    match hint v with
    | .bad ps => .error (.badDocument (ps.map (·.text)))
    | .ok s =>
      let tip := Text.trim s
      .ok (if tip = "" then none else some tip)

end Tutor

/-- An advisor that asks a language model. -/
structure Tutor where
  /-- the name of the model, or what is given in its place -/
  model : Value
  /-- the key for the service, if there is one -/
  key : Option String
  connected : Bool := false
  deriving DecidableEq, Repr, Inhabited

namespace Tutor

/-- A tutor for a model, or else for the model that is set for all, or else for the usual one.
What is not given names no model and an empty key is none; but an empty model may be set for
all. -/
def new (model : Value) (modelSet key : Option String) : Tutor where
  model := if model.given then model else .text (modelSet.getD usualModel)
  key := key.filter (· ≠ "")

/-- The tutor has a key and asks. -/
def enabled (t : Tutor) : Bool := t.key.isSome

/-- Ask for a tip.  Beside the tip it is said what goes out. -/
def suggest (t : Tutor) (command error : String) (answer : Answer) :
    Except Fault (Option String) × List Sent × Tutor :=
  match t.key with
  | none => (.ok none, [], t)
  | some key =>
    (tipOf answer,
     (if t.connected then [] else [.connect key]) ++ [.ask t.model (question command error)],
     { t with connected := true })

end Tutor

end NetLab
