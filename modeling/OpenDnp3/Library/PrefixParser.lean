import Mathlib.Data.List.Basic

/-!
# Parsers that take a prefix

A parser is exact when what it takes of its input is a prefix, and when what
follows that prefix has no say in the value. Exactness is kept by sequencing.
-/

set_option autoImplicit false

namespace OpenDnp3.Library

universe u v w

variable {Token : Type u} {ε : Type v} {α β : Type w}

/-- A parser of values with a property. -/
def TakesPrefix (Good : α → Prop) (parse : List Token → Except ε (α × List Token)) : Prop :=
  ∀ tokens value rest, parse tokens = .ok (value, rest) →
    ∃ own, tokens = own ++ rest ∧ (∀ after, parse (own ++ after) = .ok (value, after)) ∧ Good value

namespace TakesPrefix

variable {Good : α → Prop} {Fine : β → Prop}

theorem fail (error : ε) :
    TakesPrefix Good fun _ : List Token => (.error error : Except ε (α × List Token)) := by
  intro tokens value rest impossible
  cases impossible

theorem pure {value : α} (good : Good value) :
    TakesPrefix Good fun tokens : List Token => (.ok (value, tokens) : Except ε (α × List Token)) := by
  intro tokens other rest success
  cases success
  exact ⟨[], rfl, fun _ => rfl, good⟩

/-- A parser that goes on with a second one where the first succeeds. -/
theorem bind {first : List Token → Except ε (α × List Token)}
    {whole : List Token → Except ε (β × List Token)} (exact : TakesPrefix Good first)
    (second : α → List Token → Except ε (β × List Token))
    (next : ∀ value, Good value → TakesPrefix Fine (second value))
    (failing : ∀ tokens error, first tokens = .error error → whole tokens = .error error)
    (passing : ∀ tokens value rest, first tokens = .ok (value, rest) →
      whole tokens = second value rest) : TakesPrefix Fine whole := by
  intro tokens result rest success
  cases one : first tokens with
  | error error =>
      rw [failing tokens error one] at success
      cases success
  | ok pair =>
      obtain ⟨value, left⟩ := pair
      rw [passing tokens value left one] at success
      obtain ⟨own, split, same, good⟩ := exact tokens value left one
      obtain ⟨more, splitLeft, sameLeft, fine⟩ := next value good left result rest success
      refine ⟨own ++ more, by rw [split, splitLeft, List.append_assoc], fun after => ?_, fine⟩
      rw [List.append_assoc, passing _ _ _ (same (more ++ after))]
      exact sameLeft after

/-- A parser that takes a fixed number of tokens, when there are as many. -/
theorem take {size : Nat} {value : List Token → α} {error : ε}
    {parse : List Token → Except ε (α × List Token)}
    (short : ∀ tokens, tokens.length < size → parse tokens = .error error)
    (long : ∀ tokens, size ≤ tokens.length →
      parse tokens = .ok (value tokens, tokens.drop size))
    (settled : ∀ own, own.length = size →
      (∀ after, value (own ++ after) = value own) ∧ Good (value own)) :
    TakesPrefix Good parse := by
  intro tokens result rest success
  by_cases enough : size ≤ tokens.length
  · rw [long tokens enough] at success
    cases success
    have length : (tokens.take size).length = size := by
      rw [List.length_take, Nat.min_eq_left enough]
    obtain ⟨same, good⟩ := settled (tokens.take size) length
    have whole := same (tokens.drop size)
    rw [List.take_append_drop] at whole
    refine ⟨tokens.take size, (List.take_append_drop size tokens).symm, fun after => ?_, ?_⟩
    · rw [long _ (by rw [List.length_append, length]; omega), List.drop_left' length, same, whole]
    · rw [whole]
      exact good
  · rw [short tokens (Nat.lt_of_not_le enough)] at success
    cases success

end TakesPrefix

/-- Take a number of tokens. -/
def takeTokens (error : ε) (size : Nat) (tokens : List Token) :
    Except ε (List Token × List Token) :=
  if tokens.length < size then .error error else .ok (tokens.take size, tokens.drop size)

theorem takeTokens_takesPrefix (error : ε) (size : Nat) :
    TakesPrefix (fun own => own.length = size) (@takeTokens Token ε error size) :=
  .take (fun _ short => if_pos short) (fun _ long => if_neg (Nat.not_lt.mpr long))
    fun own length => ⟨fun after => by
      rw [List.take_left' length, List.take_of_length_le (Nat.le_of_eq length)],
      by rw [List.take_of_length_le (Nat.le_of_eq length), length]⟩

theorem takeTokens_error {error other : ε} {size : Nat} {tokens : List Token}
    (failed : takeTokens error size tokens = .error other) :
    other = error ∧ tokens.length < size := by
  rw [takeTokens] at failed
  split at failed
  · next short =>
      cases failed
      exact ⟨rfl, short⟩
  · cases failed

theorem takeTokens_ok {error : ε} {size : Nat} {tokens own rest : List Token}
    (success : takeTokens error size tokens = .ok (own, rest)) :
    ¬tokens.length < size ∧ own = tokens.take size ∧ rest = tokens.drop size := by
  rw [takeTokens] at success
  split at success
  · cases success
  · next long =>
      cases success
      exact ⟨long, rfl, rfl⟩

end OpenDnp3.Library
