import Mathlib.Data.List.Nodup

/-!
# Chains of links

Keys that are linked one to the next by a function, the last one to nothing.
-/

set_option autoImplicit false

namespace OpenDnp3.Library

variable {κ : Type}

/-- Each key is linked to the one behind it, and the last one to nothing. -/
def Linked (link : κ → Option κ) : List κ → Prop
  | [] => True
  | key :: keys => link key = keys.head? ∧ Linked link keys

namespace Linked

variable {link relink : κ → Option κ} {keys before after : List κ} {key : κ}

/-- Only the links of the keys themselves matter. -/
theorem congr (linked : Linked link keys) (same : ∀ other ∈ keys, relink other = link other) :
    Linked relink keys := by
  induction keys with
  | nil => trivial
  | cons first keys ih =>
      obtain ⟨here, rest⟩ := linked
      constructor
      · rw [same first List.mem_cons_self]
        exact here
      · exact ih rest fun other member => same other (List.mem_cons_of_mem first member)

theorem behind (linked : Linked link (before ++ after)) : Linked link after := by
  induction before with
  | nil => exact linked
  | cons first before ih => exact ih linked.2

/-- A key is linked to what comes behind it. -/
theorem link_eq (linked : Linked link (before ++ key :: after)) : link key = after.head? :=
  linked.behind.1

/-- The first of several different keys is not the last of them. -/
theorem getLast?_ne {first second : κ} (fresh : first ∉ second :: keys) :
    (first :: second :: keys).getLast? ≠ some first := by
  rw [List.getLast?_cons_cons]
  intro same
  exact fresh (List.mem_of_getLast? same)

variable [DecidableEq κ]

/-- A key behind the others is linked from the last of them. -/
theorem append_one (linked : Linked link keys) (unique : (keys ++ [key]).Nodup)
    (last : relink key = none)
    (joined : ∀ other ∈ keys,
      relink other = if keys.getLast? = some other then some key else link other) :
    Linked relink (keys ++ [key]) := by
  induction keys with
  | nil => exact ⟨last, trivial⟩
  | cons first keys ih =>
      obtain ⟨here, rest⟩ := linked
      rw [List.cons_append, List.nodup_cons] at unique
      obtain ⟨fresh, unique⟩ := unique
      have joinedFirst := joined first List.mem_cons_self
      cases keys with
      | nil =>
          refine ⟨?_, last, trivial⟩
          rw [joinedFirst, List.getLast?_singleton, if_pos rfl]
          rfl
      | cons second keys =>
          constructor
          · rw [joinedFirst,
              if_neg (getLast?_ne fun member => fresh (List.mem_append_left _ member))]
            exact here
          · refine ih rest unique fun other member => ?_
            rw [joined other (List.mem_cons_of_mem first member), List.getLast?_cons_cons]

/-- A key is taken out when the one in front of it is linked to the one behind it. -/
theorem bypass (linked : Linked link (before ++ key :: after))
    (unique : (before ++ key :: after).Nodup)
    (joined : ∀ other ∈ before ++ after,
      relink other = if before.getLast? = some other then after.head? else link other) :
    Linked relink (before ++ after) := by
  induction before with
  | nil => exact linked.2.congr joined
  | cons first before ih =>
      obtain ⟨here, rest⟩ := linked
      rw [List.cons_append, List.nodup_cons] at unique
      obtain ⟨fresh, unique⟩ := unique
      have joinedFirst := joined first List.mem_cons_self
      have others := fun other (member : other ∈ before ++ after) =>
        joined other (List.mem_cons_of_mem first member)
      cases before with
      | nil =>
          constructor
          · rw [joinedFirst, List.getLast?_singleton, if_pos rfl]
            rfl
          · refine rest.2.congr fun other member => ?_
            have different : ¬ [first].getLast? = some other := by
              rw [List.getLast?_singleton, Option.some.injEq]
              rintro rfl
              exact fresh (List.mem_cons_of_mem key member)
            rw [others other member, if_neg different]
      | cons second before =>
          constructor
          · rw [joinedFirst,
              if_neg (getLast?_ne fun member => fresh (List.mem_append_left _ member))]
            exact here
          · refine ih rest unique fun other member => ?_
            rw [others other member, List.getLast?_cons_cons]

end Linked

end OpenDnp3.Library
