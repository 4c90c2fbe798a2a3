import PropertyFilter.Proofs.Filter.Construction
import PropertyFilter.Proofs.Filter.Sameness
import PropertyFilter.Proofs.Text.NameList

/-!
# Spellings of one configuration

A type may be given by its simple name or as any type of that name, and names may stand in a row,
in a set, or in a text with commas and blanks between them. Which of these a mapping uses, entry by
entry, makes no difference to the filter that it describes.

## Main definitions

* `Spells`: the values that stand for given names
* `Respelled`: entries that differ in the spelling of their key or value only

## Main results

* `NameFilter.store_respelled`: entries that differ in spelling store the same
* `NameFilter.fromConfiguration_respelled`: mappings that differ in spelling describe one filter
-/

namespace PropertyFilter

open Text (joinFields)
open Text.NameList (Lists read_joinFields separator)

/-- Values that stand for names, in order: a list or tuple of them, a set that yields them in that
order if they are different, and a text that lists them. -/
inductive Spells (names : List String) : Value → Prop where
  | list (label : Option Nat) : Spells names (.list label (names.map .text))
  | tuple (label : Option Nat) : Spells names (.tuple label (names.map .text))
  | set (label : Option Nat) (frozen : Bool) (hnames : names.Nodup) :
      Spells names (.set label frozen (names.map .text))
  | text {fs : List (List Char)} (h : Lists names fs) :
      Spells names (.text (String.ofList (joinFields separator fs)))

/-- Entries that differ in spelling only: their keys stand for the same type, if for any, and their
values are the same or stand for the same names. Whether keys of different entries stay different is
of no concern, since later entries take the place of earlier ones in any case. -/
structure Respelled (e e' : Value × Value) : Prop where
  typeKey?_eq : typeKey? e.1 = typeKey? e'.1
  value : e.2 = e'.2 ∨ ∃ names, Spells names e.2 ∧ Spells names e'.2

theorem Spells.propertyNames?_eq {names : List String} {v : Value} (h : Spells names v) :
    propertyNames? v = some (names.map .text) := by
  cases h with
  | list label => rfl
  | tuple label => rfl
  | set label frozen hnames => rfl
  | text h => rw [propertyNames?_text, listedNames, read_joinFields h]

theorem Respelled.propertyNames?_eq {e e' : Value × Value} (h : Respelled e e') :
    propertyNames? e.2 = propertyNames? e'.2 := by
  rcases h.value with hvalue | ⟨names, hnames, hnames'⟩
  · rw [hvalue]
  · rw [hnames.propertyNames?_eq, hnames'.propertyNames?_eq]

namespace NameFilter

variable {e e' : Value × Value} {entries entries' : List (Value × Value)}

/-- Entries that differ in spelling store the same, though notices about them may differ. -/
theorem store_respelled (h : Respelled e e') (types : Entries (List Value)) :
    (entryFate e.1 e.2).store types = (entryFate e'.1 e'.2).store types := by
  unfold entryFate
  rw [← h.typeKey?_eq, ← h.propertyNames?_eq]
  cases typeKey? e.1 with
  | none => rfl
  | some t => rcases propertyNames? e.2 with _ | _ | ⟨n, ns⟩ <;> rfl

/-- Mappings that differ in spelling configure the same rows of names. -/
theorem typesOf_respelled (h : List.Forall₂ Respelled entries entries') :
    typesOf entries = typesOf entries' := by
  suffices hpass : ∀ types : Entries (List Value),
      (entryFates entries).foldl EntryFate.store types =
        (entryFates entries').foldl EntryFate.store types from hpass []
  -- the induction is on the entries still to come, after any that have been stored
  induction h with
  | nil => intro types; rfl
  | cons he _ ih =>
    intro types
    rw [entryFates, entryFates, List.map_cons, List.map_cons, List.foldl_cons, List.foldl_cons,
      store_respelled he, ← entryFates, ← entryFates]
    exact ih _

/-- **Spelling makes no difference.** Mappings whose entries differ in spelling, one by one, describe
filters that are the same, have the same digest and the same plain value, and answer every query in
the same way. -/
theorem fromConfiguration_respelled {defaults : List Value}
    (hd : Value.allHashable defaults = true) (h : List.Forall₂ Respelled entries entries')
    (label label' : Option Label) (view view' : Bool) :
    ∃ f g, (fromConfiguration (.mapping label view entries) defaults).outcome = .ok f ∧
      (fromConfiguration (.mapping label' view' entries') defaults).outcome = .ok g ∧
      f.same g = true ∧ f.digest = g.digest ∧ f.snapshot = g.snapshot ∧
      f.isEmpty = g.isEmpty ∧ (∀ typeId, f.namesFor typeId = g.namesFor typeId) ∧
      (∀ typeId name, f.matchesType typeId name = g.matchesType typeId name) ∧
      ∀ owner name, f.matchesOwner owner name = g.matchesOwner owner name := by
  have hfilters : configured (.mapping label' view' entries') defaults =
      configured (.mapping label view entries) defaults := by
    have hrows : namesByTypeOf (Shape.ofValue (.mapping label' view' entries')) =
        namesByTypeOf (Shape.ofValue (.mapping label view entries)) := by
      rw [namesByTypeOf_of_entries rfl, namesByTypeOf_of_entries rfl, typesOf_respelled h]
    rw [configured, configured, hrows]
    rfl
  have hf := outcome_fromConfiguration (.mapping label view entries) hd
  have hg := outcome_fromConfiguration (.mapping label' view' entries') hd
  rw [hfilters] at hg
  exact ⟨_, _, hf, hg, same_refl _, rfl, rfl, rfl, fun _ => rfl, fun _ _ => rfl, fun _ _ => rfl⟩

/-- A row written as a text with blanks, a set written as a tuple, and the two ways to give a
type. -/
theorem fromConfiguration_respelled_blanks :
    Value.allHashable [.text "class"] = true ∧
      ∃ f g, (fromConfiguration (.mapping none false
          [(.text "User", .list none [.text "a", .text "b"]),
            (.type "Post" 0, .set none false [.text "c"]), (.int 3, .text "d")])
          [.text "class"]).outcome = .ok f ∧
        (fromConfiguration (.mapping none true
          [(.type "User" 4, .text " a ,\u2003b\u0085"),
            (.text "Post", .tuple none [.text "c"]), (.int 3, .text "d")])
          [.text "class"]).outcome = .ok g ∧
        f.same g = true ∧ f.digest = g.digest := by
  have hd : Value.allHashable [.text "class"] = true := by decide
  have hlists : Lists ["a", "b"]
      [[' '] ++ "a".toList ++ [' '], ['\u2003'] ++ "b".toList ++ ['\u0085']] :=
    .name ⟨by decide, by decide, by decide⟩ (by decide) (by decide)
      (.name ⟨by decide, by decide, by decide⟩ (by decide) (by decide) .nil)
  have hrow : Spells ["a", "b"] (.text " a ,\u2003b\u0085") := .text hlists
  have hentries : List.Forall₂ Respelled
      [(.text "User", .list none [.text "a", .text "b"]),
        (.type "Post" 0, .set none false [.text "c"]), (.int 3, .text "d")]
      [(.type "User" 4, .text " a ,\u2003b\u0085"), (.text "Post", .tuple none [.text "c"]),
        (.int 3, .text "d")] :=
    .cons ⟨rfl, .inr ⟨["a", "b"], .list none, hrow⟩⟩
      (.cons ⟨rfl, .inr ⟨["c"], .set none false (List.nodup_singleton _), .tuple none⟩⟩
        (.cons ⟨rfl, .inl rfl⟩ .nil))
  obtain ⟨f, g, hf, hg, hsame, hdigest, -⟩ :=
    fromConfiguration_respelled hd hentries none none false true
  exact ⟨hd, f, g, hf, hg, hsame, hdigest⟩

end NameFilter

end PropertyFilter
