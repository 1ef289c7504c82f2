import CommerceAgent.Json

/-! The contracts of `harness/schema.py` that the generated cases and the multi-turn cases share. -/
namespace CommerceAgent.Harness

open Json

/-- `^[a-z][a-z0-9_]{2,127}$`. -/
def matchesCaseId (id : String) : Bool :=
  match id.toList with
  | c :: rest => c.isLower && rest.all (fun c => c.isLower || c.isDigit || c == '_') &&
      2 ≤ rest.length && rest.length ≤ 127
  | [] => false

structure EvalMessage where
  role : String
  content : String

/-- The checks of `EvalMessage`. -/
def EvalMessage.validate (message : EvalMessage) : Except String EvalMessage :=
  if message.role ∉ ["user", "assistant", "system", "tool"] then throw "role"
  else if message.content.length < 1 ∨ 8000 < message.content.length then throw "content"
  else pure message

theorem EvalMessage.validate_eq_ok {message m : EvalMessage} (h : message.validate = .ok m) :
    m = message := by
  unfold EvalMessage.validate at h
  split at h
  · cases h
  · split at h
    · cases h
    · exact (Except.ok.inj h).symm

end CommerceAgent.Harness
