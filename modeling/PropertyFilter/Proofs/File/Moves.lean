import PropertyFilter.Proofs.File.Walks

/-!
# What changes to files leave where it is

Making or taking away what stands at a place changes nothing at other places. Moving something takes
away what stands at its place and below, and puts it at and below another place; elsewhere nothing
changes.

## Main results

* `FileTree.node?_set_of_ne`, `FileTree.node?_clear_of_ne`: changes at one place
* `FileTree.movedPlace_eq_iff`: what is moved, and where it is not moved to
* `FileTree.node?_displace?`: moving a file in place of another
-/

namespace PropertyFilter

namespace FileTree

variable {t t' : FileTree} {p source target : Path} {place q : Place} {n : Node}

/-! ## One place -/

/-- The working directory is always there. -/
theorem ne_nil_of_node?_eq_none (h : t.node? q = none) : q ≠ [] := by
  rintro rfl
  rw [node?_nil] at h
  contradiction

theorem find?_filter_of_ne (h : q ≠ place) (nodes : List (Place × Node)) :
    (nodes.filter fun e => e.1 != place).find? (fun e => e.1 == q) =
      nodes.find? fun e => e.1 == q := by
  rw [List.find?_filter]
  congr 1
  funext e
  by_cases he : e.1 = q
  · simp [he, h]
  · simp [he]

theorem node?_clear_of_ne (h : q ≠ place) : (t.clear place).node? q = t.node? q := by
  simp only [node?, clear, find?_filter_of_ne h]

theorem node?_set_of_ne (h : q ≠ place) (n : Node) : (t.set place n).node? q = t.node? q := by
  have hplace : (place == q) = false := beq_false_of_ne (Ne.symm h)
  simp only [node?, set, List.find?_cons, hplace, find?_filter_of_ne h]

/-- A new file stands at its place, and nothing else changes. -/
theorem node?_create_of_ne (h : q ≠ place) (bs : List UInt8) :
    (t.create place bs).1.node? q = t.node? q :=
  node?_set_of_ne h (.file t.contents.length)

/-! ## Moves -/

/-- Outside of the place to which things are moved there is what was there, unless it is moved. -/
theorem movedPlace_eq_iff {a b : Place} (hb : ¬ b <+: q) :
    movedPlace a b place = q ↔ place = q ∧ ¬ a <+: q := by
  unfold movedPlace
  by_cases ha : a <+: place
  · rw [if_pos (List.isPrefixOf_iff_prefix.mpr ha)]
    constructor
    · rintro rfl
      exact absurd (List.prefix_append b _) hb
    · rintro ⟨rfl, hmoved⟩
      exact absurd ha hmoved
  · rw [if_neg (fun h => ha (List.isPrefixOf_iff_prefix.mp h))]
    constructor
    · rintro rfl
      exact ⟨rfl, ha⟩
    · exact And.left

/-- **A move** leaves everything outside of the place to which it goes, except what it takes. -/
theorem node?_move (htarget : ¬ target.place <+: q) :
    (t.move source target).node? q = t.node? q ∨
      source.place <+: q ∧ (t.move source target).node? q = none := by
  unfold move
  split
  · next a b hsource htarget' =>
    obtain rfl := eq_place_of_resolve hsource
    obtain rfl := eq_place_of_resolve htarget'
    by_cases hroot : q = []
    · left
      rw [hroot, node?_nil, node?_nil]
    simp only [node?, if_neg hroot, List.find?_map, Option.map_map]
    -- all nodes change places at once: the one at `q` may leave, and no other comes there
    by_cases hmoved : source.place <+: q
    · right
      refine ⟨hmoved, ?_⟩
      rw [Option.map_eq_none_iff, List.find?_eq_none]
      intro e he
      simp [movedPlace_eq_iff htarget, hmoved]
    · left
      have hsame : ((fun e : Place × Node => e.1 == q) ∘ fun e : Place × Node =>
          (movedPlace source.place target.place e.1, e.2)) = fun e => e.1 == q := by
        funext e
        exact Bool.eq_iff_iff.mpr (by simp [movedPlace_eq_iff htarget, hmoved])
      rw [hsame]
      rfl
  · exact .inl rfl

/-- What is taken away is no directory, and nothing else changes. -/
theorem remove?_spec (h : t.remove? p = some t') :
    t' = t ∧ (∀ place, t.resolve p ≠ .ok place) ∨
      t.node? p.place ≠ some .directory ∧ ∀ q, q ≠ p.place → t'.node? q = t.node? q := by
  unfold remove? at h
  split at h
  · next hresolve =>
    exact .inl ⟨(Option.some.inj h).symm, fun place heq => by rw [hresolve] at heq; contradiction⟩
  · next hresolve =>
    obtain rfl := eq_place_of_resolve hresolve
    split at h
    · next hnone =>
      obtain rfl := Option.some.inj h
      exact .inr ⟨by simp [hnone], fun _ _ => rfl⟩
    · next hfile =>
      obtain rfl := Option.some.inj h
      exact .inr ⟨by simp [hfile], fun q hq => node?_clear_of_ne hq⟩
    · contradiction

/-- **Moving something in place of a file** leaves everything outside of that place, except what is
moved. A directory is not displaced, so nothing in it is lost. -/
theorem node?_displace? (h : t.displace? source target = some t')
    (htarget : t.node? target.place ≠ some .directory → ¬ target.place <+: q) :
    t'.node? q = t.node? q ∨ source.place <+: q ∧ t'.node? q = none := by
  obtain ⟨t₁, hremove, rfl⟩ := Option.map_eq_some_iff.mp h
  rcases remove?_spec hremove with ⟨rfl, hnowhere⟩ | ⟨hplace, hothers⟩
  · left
    unfold move
    split
    · next b _ hb => exact absurd hb (hnowhere b)
    · rfl
  · have hq := htarget hplace
    have hne : q ≠ target.place := fun heq => hq (heq ▸ List.prefix_rfl)
    rw [← hothers q hne]
    exact node?_move hq

end FileTree

end PropertyFilter
