import Mathlib.Data.List.Basic

/-!
# Reassembly over a lossy channel

Messages are cut into pieces, some pieces are lost, and a receiver that knows
the position of every piece joins those that follow each other. What it returns
is a sublist of the messages.
-/

set_option autoImplicit false

namespace OpenDnp3.Library

universe u

variable {α : Type u}

/-- What arrives of a list whose first element has a given position. -/
def deliver (arrives : Nat → Bool) : Nat → List α → List α
  | _, [] => []
  | position, value :: values =>
      if arrives position then value :: deliver arrives (position + 1) values
      else deliver arrives (position + 1) values

structure Piece (α : Type u) where
  first : Bool
  last : Bool
  content : List α

namespace Piece

/-- The pieces of what is left of a message. -/
inductive Cuts : Bool → List α → List (Piece α) → Prop
  | last (first : Bool) (content : List α) : Cuts first content [⟨first, true, content⟩]
  | more (first : Bool) (content : List α) {rest : List α} {pieces : List (Piece α)}
      (cut : Cuts false rest pieces) :
      Cuts first (content ++ rest) (⟨first, false, content⟩ :: pieces)

/-- The pieces of one message after the other. -/
inductive CutsAll : List (List α) → List (Piece α) → Prop
  | nil : CutsAll [] []
  | cons {message : List α} {messages : List (List α)} {own others : List (Piece α)}
      (cut : Cuts true message own) (rest : CutsAll messages others) :
      CutsAll (message :: messages) (own ++ others)

end Piece

/-- What was read of a message, and the position of the piece that goes on with it. -/
abbrev Reassembly (α : Type u) := Option (Nat × List α)

namespace Reassembly

/-- The state after a piece is appended, and the message that it completes. -/
def append (position : Nat) (content : List α) (piece : Piece α) :
    Reassembly α × List (List α) :=
  if piece.last then (none, [content ++ piece.content])
  else (some (position + 1, content ++ piece.content), [])

def receive (state : Reassembly α) (position : Nat) (piece : Piece α) :
    Reassembly α × List (List α) :=
  if piece.first then append position [] piece
  else
    match state with
    | none => (none, [])
    | some (next, content) =>
        if next = position then append position content piece else (state, [])

theorem receive_first (state : Reassembly α) (position : Nat) {piece : Piece α}
    (first : piece.first = true) : state.receive position piece = append position [] piece := by
  simp only [receive, first, if_true]

theorem receive_continues (next : Nat) (content : List α) (position : Nat) {piece : Piece α}
    (continues : piece.first = false) :
    receive (some (next, content)) position piece =
      if next = position then append position content piece
      else (some (next, content), []) := by
  simp only [receive, continues, Bool.false_eq_true, if_false]

/-- The messages returned for the pieces that arrive. -/
def receiveAll (arrives : Nat → Bool) :
    Reassembly α → Nat → List (Piece α) → Reassembly α × List (List α)
  | state, _, [] => (state, [])
  | state, position, piece :: pieces =>
      let (next, returned) :=
        if arrives position then state.receive position piece else (state, [])
      let (last, others) := receiveAll arrives next (position + 1) pieces
      (last, returned ++ others)

theorem receiveAll_append (arrives : Nat → Bool) (state : Reassembly α) (position : Nat)
    (pieces others : List (Piece α)) :
    receiveAll arrives state position (pieces ++ others) =
      let (next, returned) := receiveAll arrives state position pieces
      let (last, more) := receiveAll arrives next (position + pieces.length) others
      (last, returned ++ more) := by
  induction pieces generalizing state position with
  | nil => rfl
  | cons piece pieces ih =>
      simp only [List.cons_append, receiveAll, List.length_cons]
      rw [ih, Nat.add_right_comm position 1, Nat.add_assoc position, List.append_assoc]

/-- The piece that goes on with what was read has been passed. -/
def Behind (state : Reassembly α) (position : Nat) : Prop :=
  ∀ next content, state = some (next, content) → next < position

theorem Behind.none (position : Nat) : Behind (none : Reassembly α) position := by
  intro next content impossible
  cases impossible

theorem Behind.mono {state : Reassembly α} {position other : Nat}
    (behind : state.Behind position) (later : position ≤ other) : state.Behind other :=
  fun next content same => Nat.lt_of_lt_of_le (behind next content same) later

theorem Behind.receive {state : Reassembly α} {position : Nat} (behind : state.Behind position)
    {piece : Piece α} (continues : piece.first = false) :
    state.receive position piece = (state, []) := by
  cases state with
  | none => simp [Reassembly.receive, continues]
  | some read =>
      obtain ⟨next, content⟩ := read
      have passed := behind next content rfl
      rw [receive_continues next content position continues, if_neg (Nat.ne_of_lt passed)]

/-- The receiver has read all of a message so far, or has missed a piece of it. -/
def Follows (state : Reassembly α) (position : Nat) (sent : List α) : Prop :=
  state.Behind position ∨ state = some (position, sent)

theorem Follows.lost {state : Reassembly α} {position : Nat} {sent : List α}
    (follows : state.Follows position sent) : state.Behind (position + 1) := by
  rcases follows with behind | read
  · exact behind.mono (Nat.le_add_right position 1)
  · subst read
    intro next content same
    cases same
    exact Nat.lt_succ_self position

/-- A piece of the message is appended to all of it so far, or ignored. -/
theorem Follows.receive {state : Reassembly α} {position : Nat} {sent : List α}
    (follows : state.Follows position sent) {piece : Piece α}
    (fresh : piece.first = true → sent = []) :
    state.receive position piece = append position sent piece ∨
      state.Behind position ∧ state.receive position piece = (state, []) := by
  cases first : piece.first with
  | true =>
      rw [receive_first state position first, fresh first]
      exact .inl rfl
  | false =>
      rcases follows with behind | read
      · exact .inr ⟨behind, behind.receive first⟩
      · subst read
        rw [receive_continues position sent position first, if_pos rfl]
        exact .inl rfl

end Reassembly

open Reassembly

/-- The pieces of a message give the message or nothing. -/
theorem Piece.Cuts.receiveAll {first : Bool} {rest : List α} {pieces : List (Piece α)}
    (cut : Cuts first rest pieces) (arrives : Nat → Bool) (state : Reassembly α)
    (position : Nat) (sent : List α) (fresh : first = true → sent = [])
    (follows : state.Follows position sent) :
    let (final, returned) := Reassembly.receiveAll arrives state position pieces
    final.Behind (position + pieces.length) ∧ (returned = [] ∨ returned = [sent ++ rest]) := by
  induction cut generalizing state position sent with
  | last first content =>
      simp only [Reassembly.receiveAll, List.append_nil, List.length_singleton]
      by_cases arrived : arrives position = true
      · rw [if_pos arrived]
        rcases @Follows.receive _ _ _ _ follows ⟨first, true, content⟩ fresh with read | ⟨behind, read⟩
        · rw [read]
          exact ⟨.none _, .inr rfl⟩
        · rw [read]
          exact ⟨behind.mono (Nat.le_add_right position 1), .inl rfl⟩
      · rw [if_neg arrived]
        exact ⟨follows.lost, .inl rfl⟩
  | @more first content rest pieces cut ih =>
      have goesOn : ∀ {next : Reassembly α},
          next.Follows (position + 1) (sent ++ content) →
          let (final, returned) := Reassembly.receiveAll arrives next (position + 1) pieces
          final.Behind (position + (pieces.length + 1)) ∧
            (returned = [] ∨ returned = [sent ++ (content ++ rest)]) := by
        intro next following
        have read := ih next (position + 1) (sent ++ content) (by simp) following
        rwa [Nat.add_assoc, Nat.add_comm 1, List.append_assoc] at read
      simp only [Reassembly.receiveAll, List.length_cons]
      by_cases arrived : arrives position = true
      · rw [if_pos arrived]
        rcases @Follows.receive _ _ _ _ follows ⟨first, false, content⟩ fresh with read | ⟨behind, read⟩
        · rw [read]
          exact goesOn (.inr rfl)
        · rw [read]
          exact goesOn (.inl (behind.mono (Nat.le_add_right position 1)))
      · rw [if_neg arrived]
        exact goesOn (.inl follows.lost)

/-- Whatever is lost, each message is returned at most once, whole and in order. -/
theorem Piece.CutsAll.receiveAll {messages : List (List α)} {pieces : List (Piece α)}
    (cuts : CutsAll messages pieces) (arrives : Nat → Bool) (state : Reassembly α)
    (position : Nat) (behind : state.Behind position) :
    (Reassembly.receiveAll arrives state position pieces).2.Sublist messages := by
  induction cuts generalizing state position with
  | nil => exact List.Sublist.slnil
  | @cons message messages own others cut rest ih =>
      have read := cut.receiveAll arrives state position [] (fun _ => rfl) (.inl behind)
      rw [receiveAll_append]
      generalize Reassembly.receiveAll arrives state position own = result at read
      obtain ⟨final, returned⟩ := result
      obtain ⟨passed, returned | returned⟩ := read
      · subst returned
        exact (ih final _ passed).cons message
      · subst returned
        exact (ih final _ passed).cons_cons message

end OpenDnp3.Library
