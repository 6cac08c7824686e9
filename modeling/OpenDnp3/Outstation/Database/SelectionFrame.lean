import OpenDnp3.Outstation.Database.DatabaseMachine

/-!
# What requests leave alone

Selections, loads and deselections change the selection of points and nothing
else, so whatever is seen of the points apart from it stays the same.
-/

set_option autoImplicit false

namespace OpenDnp3.Outstation

open OpenDnp3.App OpenDnp3.Library

variable {Sight : StaticType → Type} {look : (type : StaticType) → Cell type → Sight type}
  {type : StaticType}

/-- What is seen of a point does not depend on its selection. -/
def Cell.IgnoresSelection (look : (type : StaticType) → Cell type → Sight type) : Prop :=
  ∀ (type : StaticType) (cell : Cell type) (selection : SelectedValue type),
    look type { cell with selection } = look type cell

theorem Cell.IgnoresSelection.select (ignores : Cell.IgnoresSelection look)
    (variation : Option type.Variation) (cell : Cell type) :
    look type (cell.select variation) = look type cell := by
  unfold Cell.select
  split
  · rfl
  · exact ignores type cell _

/-! ## Ranges -/

namespace RangeView

theorem alike_genericSelect (ignores : Cell.IgnoresSelection look) (points : RangeView type)
    (range : Range) (variation : Option type.Variation) :
    (points.genericSelect range variation).2.view.Alike (look type) points.view := by
  unfold genericSelect
  simp only
  split
  · split
    · exact ArrayView.map_elements_modifyRange _ _ _ (ignores.select variation)
    · rfl
  · rfl

theorem alike_selectVirtualRange (ignores : Cell.IgnoresSelection look) (points : RangeView type)
    (indexMode : IndexMode) (range : Range) (variation : Option type.Variation) :
    (points.selectVirtualRange indexMode range variation).2.view.Alike (look type)
      points.view := by
  cases indexMode with
  | contiguous => exact alike_genericSelect ignores points range variation
  | discontiguous =>
      simp only [selectVirtualRange]
      split
      · exact alike_genericSelect ignores points _ variation
      · rfl

theorem alike_deselect (ignores : Cell.IgnoresSelection look) (points : RangeView type) :
    points.deselect.view.Alike (look type) points.view := by
  unfold RangeView.deselect
  split
  · exact ArrayView.map_elements_modifyRange _ _ _ fun cell => ignores type cell _
  · rfl

theorem Advances.alike (ignores : Cell.IgnoresSelection look) {points after : RangeView type}
    (advances : points.Advances after) : after.view.Alike (look type) points.view := by
  induction advances with
  | refl => rfl
  | skip _ _ _ ih => exact ih
  | take _ _ ih =>
      exact Eq.trans ih (ArrayView.Alike.of_modify _ _ fun cell => ignores type cell _)

end RangeView

/-! ## Databases -/

namespace DatabaseBuffers

variable {db after : DatabaseBuffers}

/-- The points of two databases look the same. -/
def SameLook (look : (type : StaticType) → Cell type → Sight type) (db other : DatabaseBuffers) :
    Prop :=
  ∀ type, (other.points type).view.Alike (look type) (db.points type).view

theorem SameLook.refl (db : DatabaseBuffers) : db.SameLook look db := fun _ => rfl

theorem SameLook.trans {first second third : DatabaseBuffers} (one : first.SameLook look second)
    (two : second.SameLook look third) : first.SameLook look third :=
  fun type => Eq.trans (two type) (one type)

theorem SameLook.setPoints {points : RangeView type}
    (alike : points.view.Alike (look type) (db.points type).view) :
    db.SameLook look (db.setPoints type points) := by
  intro other
  by_cases equal : other = type
  · subst equal
    rwa [points_setPoints_self]
  · rw [points_setPoints_of_ne db _ equal]
    rfl

theorem sameLook_selectAll (ignores : Cell.IgnoresSelection look) (db : DatabaseBuffers)
    (gv : GroupVariation) : db.SameLook look (db.selectAll gv).2 := by
  unfold DatabaseBuffers.selectAll
  split
  · have all : ∀ (types : List StaticType) (db : DatabaseBuffers),
        db.SameLook look (types.foldl selectAllClass0 db) := by
      intro types
      induction types with
      | nil => exact fun db => .refl db
      | cons type types ih =>
          intro db
          refine .trans ?_ (ih _)
          unfold selectAllClass0
          split
          · exact .setPoints ((db.points type).alike_genericSelect ignores _ _)
          · exact .refl db
    exact all _ db
  · split
    · exact .setPoints ((db.points _).alike_genericSelect ignores _ _)
    · exact .refl db

theorem sameLook_selectRange (ignores : Cell.IgnoresSelection look) (db : DatabaseBuffers)
    (gv : GroupVariation) (range : Range) : db.SameLook look (db.selectRange gv range).2 := by
  unfold DatabaseBuffers.selectRange
  simp only
  split
  · exact .setPoints ((db.points _).alike_selectVirtualRange ignores _ _ _)
  · exact .refl db

theorem sameLook_unselect (ignores : Cell.IgnoresSelection look) (db : DatabaseBuffers) :
    db.SameLook look db.unselect := by
  intro type
  rw [points_unselect]
  split
  · rfl
  · exact (db.points type).alike_deselect ignores

variable [FloatOps]

theorem sameLook_loadPoints (ignores : Cell.IgnoresSelection look) {writer : HeaderWriter}
    {load : Load} (success : db.loadPoints type writer = some load) :
    db.SameLook look load.buffers := by
  obtain ⟨loaded, made, rfl⟩ := Option.map_eq_some_iff.mp success
  exact .setPoints ((RangeView.loadType_advances made).alike ignores)

theorem sameLook_loadTypes (ignores : Cell.IgnoresSelection look) {types : List StaticType}
    {writer : HeaderWriter} {load : Load} (success : loadTypes types writer db = some load) :
    db.SameLook look load.buffers := by
  induction types generalizing db writer with
  | nil =>
      obtain rfl := Option.some.inj success
      exact .refl db
  | cons type types ih =>
      obtain ⟨first, made, rest⟩ := Option.bind_eq_some_iff.mp success
      split at rest
      · exact (sameLook_loadPoints ignores made).trans (ih rest)
      · obtain rfl := Option.some.inj rest
        exact sameLook_loadPoints ignores made

end DatabaseBuffers

/-- The inputs that select points, load them and deselect them. -/
def DatabaseInput.requests : DatabaseInput → Bool
  | .selectAll _ | .selectRange .. | .unselect | .load _ => true
  | .update .. | .updateTimeAndInterval .. | .modify .. | .assignClassToAll ..
  | .assignClassToRange .. => false

theorem DatabaseBuffers.sameLook_of_requests [FloatOps] (ignores : Cell.IgnoresSelection look)
    {db after : DatabaseBuffers} {input : DatabaseInput} {output : DatabaseOutput}
    (requests : input.requests = true) (success : machine.step db input = some (after, output)) :
    db.SameLook look after := by
  cases input with
  | selectAll gv =>
      obtain ⟨rfl, _⟩ := Prod.mk.inj (Option.some.inj success)
      exact sameLook_selectAll ignores db gv
  | selectRange gv range =>
      obtain ⟨rfl, _⟩ := Prod.mk.inj (Option.some.inj success)
      exact sameLook_selectRange ignores db gv range
  | unselect =>
      obtain ⟨rfl, _⟩ := Prod.mk.inj (Option.some.inj success)
      exact sameLook_unselect ignores db
  | load writer =>
      obtain ⟨load, made, same⟩ := Option.map_eq_some_iff.mp success
      obtain ⟨rfl, _⟩ := Prod.mk.inj same
      exact sameLook_loadTypes ignores made
  | update | updateTimeAndInterval | modify | assignClassToAll | assignClassToRange =>
      cases requests

end OpenDnp3.Outstation
