import PairChat.Proofs.KeptSources
import Mathlib.Data.List.Induction
import Mathlib.Data.List.Nodup

/-!
# Changes of the sources: adding, removing and choosing

`Sources.ofChanges changes` are the sources that changes make of none, one after the other.  They
are consistent with the changes (`isConsistent_ofChanges`): the names are distinct, the sources are
those that were added last under their names (`SourceChange.lastAdded`), in that order, and the
default one exists, if one is set.
-/

namespace PairChat

theorem Value.same_text (a b : String) : (Value.text a).same (.text b) = decide (a = b) :=
  Scalar.same_text a b

/-- What is to be changed of the sources. -/
inductive SourceChange
  | add (s : {s : Source // s.IsPlain}) (isDefault : Bool)
  | remove (name : String)
  | choose (name : String)
deriving DecidableEq

namespace SourceChange

/-- The source that the change adds. -/
def added? : SourceChange → Option Source
  | add s _ => some s
  | _ => none

/-- Does the change put another source in the place of those of a name, or none? -/
def replaces (name : Value) : SourceChange → Bool
  | add s _ => s.val.name = name
  | remove n => .text n = name
  | choose _ => false

/-- **The sources that were added last under their names**, and not removed since then. -/
def lastAdded : List SourceChange → List Source
  | [] => []
  | c :: later =>
    (c.added?.filter fun s => !later.any (·.replaces s.name)).toList ++ lastAdded later

variable {s : Source} {c : SourceChange} {changes : List SourceChange}

theorem lastAdded_concat (changes : List SourceChange) (c : SourceChange) :
    lastAdded (changes ++ [c]) =
      (lastAdded changes).filter (fun s => !c.replaces s.name) ++ c.added?.toList := by
  induction changes with
  | nil => rcases hc : c.added? with _ | s <;> simp [lastAdded, Option.filter, hc]
  | cons d later ih =>
    have hd : (d.added?.filter fun s => !(later ++ [c]).any (·.replaces s.name)).toList =
        (d.added?.filter fun s => !later.any (·.replaces s.name)).toList.filter
          fun s => !c.replaces s.name := by
      rcases d.added? with _ | s
      · rfl
      · rcases hl : later.any (·.replaces s.name) <;> rcases hc : c.replaces s.name <;>
          simp [Option.filter, hl, hc]
    rw [List.cons_append, lastAdded, lastAdded, ih, hd, List.filter_append, List.append_assoc]

theorem exists_of_mem_lastAdded (hs : s ∈ lastAdded changes) :
    ∃ c ∈ changes, c.added? = some s := by
  induction changes with
  | nil => exact absurd hs List.not_mem_nil
  | cons d later ih =>
    rcases List.mem_append.mp hs with hs | hs
    · exact ⟨d, List.mem_cons_self, (Option.filter_eq_some_iff.mp (Option.mem_toList.mp hs)).1⟩
    · obtain ⟨c, hc, hadded⟩ := ih hs
      exact ⟨c, List.mem_cons_of_mem d hc, hadded⟩

theorem replaces_of_added? (h : c.added? = some s) : c.replaces s.name = true := by
  cases c with
  | add t isDefault =>
    obtain rfl := Option.some.inj h
    simp [replaces]
  | remove name => cases h
  | choose name => cases h

theorem nodup_lastAdded (changes : List SourceChange) :
    ((lastAdded changes).map (·.name)).Nodup := by
  induction changes with
  | nil => exact List.nodup_nil
  | cons d later ih =>
    rcases hd : d.added?.filter fun s => !later.any (·.replaces s.name) with _ | s
    · rw [lastAdded, hd]
      exact ih
    · have hlater := (Option.filter_eq_some_iff.mp hd).2
      rw [lastAdded, hd]
      refine List.nodup_cons.mpr ⟨fun hs => ?_, ih⟩
      -- a later source of this name would replace it
      obtain ⟨t, ht, hname⟩ := List.mem_map.mp hs
      obtain ⟨c, hc, hadded⟩ := exists_of_mem_lastAdded ht
      have hreplaces := replaces_of_added? hadded
      rw [hname] at hreplaces
      have hany : later.any (·.replaces s.name) = true :=
        List.any_eq_true.mpr ⟨c, hc, hreplaces⟩
      rw [hany] at hlater
      cases hlater

end SourceChange

namespace Sources

open SourceChange (lastAdded lastAdded_concat nodup_lastAdded replaces)

/-- The sources after a change. Only a source that exists is chosen, and a name that is empty is
none. -/
def change (ss : Sources) : SourceChange → Sources
  | .add s isDefault =>
    { ss.add s with default := if isDefault then s.val.name.orNull else ss.default }
  | .remove name => (ss.remove (.text name)).1
  | .choose name =>
    if (ss.find? (.text name)).isSome then { ss with default := (Value.text name).orNull } else ss

/-- **The sources that changes make of none.** -/
def ofChanges (changes : List SourceChange) : Sources := changes.foldl change {}

variable {ss : Sources} {changes : List SourceChange}

theorem ofChanges_concat (changes : List SourceChange) (c : SourceChange) :
    ofChanges (changes ++ [c]) = (ofChanges changes).change c := by
  rw [ofChanges, List.foldl_append]
  rfl

theorem same_name {s : Source} (h : s.IsPlain) (n : String) :
    s.name.same (.text n) = decide (.text n = s.name) := by
  obtain ⟨m, hm⟩ := h.exists_name
  rw [hm, Value.same_text]
  simp [eq_comm]

theorem all_change (h : ss.IsPlain) (c : SourceChange) :
    (ss.change c).all = ss.all.filter (fun s => !c.replaces s.name) ++ c.added?.toList := by
  cases c with
  | add s isDefault =>
    obtain ⟨n, hn⟩ := s.2.exists_name
    have hfilter : ss.all.filter (fun t => !t.name.same s.1.name) =
        ss.all.filter fun t => !(SourceChange.add s isDefault).replaces t.name := by
      refine List.filter_congr fun t ht => ?_
      rw [hn, same_name (h.all t ht), SourceChange.replaces, hn]
    exact congrArg (· ++ [s.1]) hfilter
  | remove name =>
    have hfilter : ss.all.filter (fun t => !t.name.same (.text name)) =
        ss.all.filter fun t => !(SourceChange.remove name).replaces t.name := by
      refine List.filter_congr fun t ht => ?_
      rw [same_name (h.all t ht), SourceChange.replaces]
    exact hfilter.trans (List.append_nil _).symm
  | choose name =>
    have hall : (ss.change (.choose name)).all = ss.all := by
      dsimp only [change]
      split_ifs <;> rfl
    simp [hall, SourceChange.replaces, SourceChange.added?]

/-- A source of this name is found if there is one. -/
theorem find?_isSome_iff (h : ss.IsPlain) (n : String) :
    (ss.find? (.text n)).isSome ↔ ∃ s ∈ ss.all, s.name = .text n := by
  rw [find?, List.find?_isSome]
  refine exists_congr fun s => and_congr_right fun hs => ?_
  rw [same_name (h.all s hs), decide_eq_true_iff, eq_comm]

/-- A source is removed if there is one of this name. -/
theorem remove_found_iff (h : ss.IsPlain) (n : String) :
    (ss.remove (.text n)).2 = true ↔ ∃ s ∈ ss.all, s.name = .text n := by
  have hfewer : (ss.remove (.text n)).2 = true ↔
      ∃ s ∈ ss.all, ¬ (!s.name.same (.text n)) = true :=
    decide_eq_true_iff.trans List.length_filter_lt_length_iff_exists
  rw [hfewer]
  refine exists_congr fun s => and_congr_right fun hs => ?_
  rw [same_name (h.all s hs), Bool.not_eq_true', decide_eq_false_iff_not, not_not, eq_comm]

theorem default_remove {n : String} (hd : ss.default = .text n) :
    (ss.change (.remove n)).default = .null := by
  have hsame : ss.default.same (.text n) = true := by
    rw [hd, Value.same_text]
    exact decide_eq_true rfl
  exact if_pos hsame

theorem isPlain_change (h : ss.IsPlain) (c : SourceChange) : (ss.change c).IsPlain := by
  have hall : ∀ s ∈ (ss.change c).all, s.IsPlain := by
    intro s hs
    rw [all_change h] at hs
    rcases List.mem_append.mp hs with hs | hs
    · exact h.all s (List.mem_filter.mp hs).1
    · cases c with
      | add t isDefault =>
        obtain rfl := Option.some.inj (Option.mem_toList.mp hs)
        exact t.2
      | remove name => exact absurd hs List.not_mem_nil
      | choose name => exact absurd hs List.not_mem_nil
  refine ⟨hall, ?_⟩
  cases c with
  | add s isDefault =>
    obtain ⟨n, hn⟩ := s.2.exists_name
    dsimp only [change]
    split_ifs
    · exact ⟨some n, congrArg Value.orNull hn⟩
    · exact h.default
  | remove name =>
    dsimp only [change, remove]
    split_ifs
    · exact ⟨none, rfl⟩
    · exact h.default
  | choose name =>
    dsimp only [change]
    split_ifs
    · exact ⟨some name, rfl⟩
    · exact h.default

theorem isPlain_ofChanges (changes : List SourceChange) : (ofChanges changes).IsPlain := by
  induction changes using List.reverseRecOn with
  | nil => exact ⟨fun _ hs => absurd hs List.not_mem_nil, none, rfl⟩
  | append_singleton changes c ih =>
    rw [ofChanges_concat]
    exact isPlain_change ih c

/-- What is empty in a source that is added, and an empty name, make no difference to the
document. -/
theorem toEntries_add (ss : Sources) {s : Source} {t : {s : Source // s.IsPlain}}
    (hname : s.name = t.val.name) (hvalue : s.toValue = t.val.toValue) (isDefault : Bool) :
    (if isDefault then { ss.add s with default := s.name } else ss.add s).toEntries =
      (ss.change (.add t isDefault)).toEntries := by
  have hall : (ss.add s).all.map Source.toValue = (ss.add t).all.map Source.toValue := by
    rw [add, add, List.map_append, List.map_append, hname, List.map_singleton, List.map_singleton,
      hvalue]
  rcases isDefault
  · exact toEntries_congr hall rfl
  · refine toEntries_congr hall ?_
    rw [hname]
    exact (Value.orNull_orNull _).symm

theorem toEntries_choose {name : String} (hf : (ss.find? (.text name)).isSome) :
    toEntries { ss with default := .text name } = (ss.change (.choose name)).toEntries := by
  rw [change, if_pos hf]
  exact toEntries_congr rfl (Value.orNull_orNull _).symm

/-- The default source is none, or one of the sources. -/
def HasDefault (ss : Sources) : Prop :=
  ss.default = .null ∨ ∃ s ∈ ss.all, s.name = ss.default

theorem hasDefault_of_mem {s : Source} (hs : s ∈ ss.all) (hd : ss.default = s.name.orNull) :
    ss.HasDefault := by
  rcases Value.orNull_eq s.name with hnull | hname
  · exact Or.inl (hd.trans hnull)
  · exact Or.inr ⟨s, hs, (hd.trans hname).symm⟩

theorem hasDefault_change (h : ss.IsPlain) (hd : ss.HasDefault) (c : SourceChange) :
    (ss.change c).HasDefault := by
  have hall := all_change h c
  cases c with
  | add s isDefault =>
    have hs : s.val ∈ (ss.change (.add s isDefault)).all := by
      rw [hall]
      exact List.mem_append_right _ List.mem_cons_self
    rcases isDefault
    · rcases hd with hnull | ⟨t, ht, hname⟩
      · exact Or.inl hnull
      · by_cases hsame : s.val.name = t.name
        · exact Or.inr ⟨s, hs, hsame.trans hname⟩
        · have ht' : t ∈ (ss.change (.add s false)).all := by
            rw [hall]
            exact List.mem_append_left _ (List.mem_filter.mpr ⟨ht, by simp [replaces, hsame]⟩)
          exact Or.inr ⟨t, ht', hname⟩
    · exact hasDefault_of_mem hs rfl
  | remove name =>
    rcases hsame : ss.default.same (.text name)
    · have hdefault : (ss.change (.remove name)).default = ss.default := by
        dsimp only [change, remove]
        rw [hsame, if_neg Bool.false_ne_true]
      rcases hd with hnull | ⟨t, ht, hname⟩
      · exact Or.inl (hdefault.trans hnull)
      · rw [← hname, same_name (h.all t ht), decide_eq_false_iff_not] at hsame
        have ht' : t ∈ (ss.change (.remove name)).all := by
          rw [hall]
          exact List.mem_append_left _ (List.mem_filter.mpr ⟨ht, by simp [replaces, hsame]⟩)
        exact Or.inr ⟨t, ht', hname.trans hdefault.symm⟩
    · refine Or.inl ?_
      dsimp only [change, remove]
      rw [hsame, if_pos rfl]
  | choose name =>
    dsimp only [change]
    split_ifs with hf
    · obtain ⟨s, hs, hname⟩ := (find?_isSome_iff h name).mp hf
      exact hasDefault_of_mem hs (congrArg Value.orNull hname.symm)
    · exact hd

/-- **The sources are what changes should make of none.** -/
structure IsConsistent (changes : List SourceChange) (ss : Sources) : Prop where
  nodup : (ss.all.map (·.name)).Nodup
  all : ss.all = lastAdded changes
  default : ss.HasDefault

theorem isConsistent_ofChanges (changes : List SourceChange) :
    (ofChanges changes).IsConsistent changes := by
  have hall : (ofChanges changes).all = lastAdded changes := by
    induction changes using List.reverseRecOn with
    | nil => rfl
    | append_singleton changes c ih =>
      rw [ofChanges_concat, all_change (isPlain_ofChanges changes), ih, lastAdded_concat]
  have hdefault : (ofChanges changes).HasDefault := by
    clear hall
    induction changes using List.reverseRecOn with
    | nil => exact Or.inl rfl
    | append_singleton changes c ih =>
      rw [ofChanges_concat]
      exact hasDefault_change (isPlain_ofChanges changes) ih c
  refine ⟨?_, hall, hdefault⟩
  rw [hall]
  exact nodup_lastAdded changes

end Sources

end PairChat
