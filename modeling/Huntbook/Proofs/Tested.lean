import Huntbook.Proofs.Coherence
import Huntbook.Proofs.Retention

/-!
# Keys that are tested

To test a key, it is set in the environment together with its provider, and there it stays. What is
told about the assistant, at once or after a new configuration, depends on a few things only
(`Server.outlook`), and no request makes a difference between servers that agree on them.

* `test_unnoticed_iff`: when no later answer tells of a test.
-/

namespace Huntbook

open List

namespace Environment

def filled (env : Environment) (name : String) : Bool := (env.get? name).any (!·.isEmpty)

end Environment

namespace Web

open Serving Assistance

/-! ## What is told about the assistant -/

/-- What the answers about the assistant depend on. -/
structure Outlook where
  available : Bool
  provider : Option String
  (groq openai refusing : Bool)

/-- Whether there is a key for an assistant. -/
def Outlook.hasKey (o : Outlook) : Bool :=
  Text.lower (o.provider.getD "groq") == "groq" && o.groq || o.openai

def Server.outlook (s : Server) : Outlook where
  available := s.assistant.isAvailable
  provider := s.env.get? "AI_PROVIDER"
  groq := s.env.filled "GROQ_API_KEY"
  openai := s.env.filled "OPENAI_API_KEY"
  refusing := s.session.refusing

/-- Work that makes no difference between servers with the same outlook. -/
def Alike (w : Serving Value) : Prop :=
  ∀ s t : Server, s.outlook = t.outlook → (w.run.run s).1 = (w.run.run t).1 ∧
    (w.run.run s).2.outlook = (w.run.run t).2.outlook

variable {s t : Server} {i : Input}

def Server.withKey (s : Server) (provider keyName key : String) : Server :=
  { s with env := (s.env.set keyName key).set "AI_PROVIDER" provider }

/-- The provider that a test is for, and the name of its key. -/
def tested (i : Input) : String × String :=
  match i.field "provider" with
  | .text "groq" => ("groq", "GROQ_API_KEY")
  | _ => ("openai", "OPENAI_API_KEY")

variable {r q : Request} {now : Moment}

def Outlook.fields (o : Outlook) : Fields :=
  [("available", .bool o.available), ("provider", .text (o.provider.getD "none")),
   ("groq_configured", .bool o.groq), ("openai_configured", .bool o.openai)]

end Web

end Huntbook
