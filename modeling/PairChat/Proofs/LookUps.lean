import PairChat.Proofs.UnseenFiles

/-!
# Look-ups: paths that the system follows

A path can be looked up if it can be handed to the system and is not refused as too long
(`Tree.CanLookUp`).  In a tree where everything stands in a directory (`Tree.IsGrounded`) it then
leads to what is at its place (`Tree.lookUp_root`).

* `Tree.canLookUp_above`: **what can be looked up in a directory can be looked up in every directory
  above it**, since the path gets shorter.
* `Tree.exists?_above`: so a name is found in a directory above exactly where something stands
  there.
* `Tree.isDirectory_of_makePath`: a directory that was made is found.
-/

namespace PairChat

/-! ### Sizes of paths -/

namespace Text

/-- A slash is a piece of its own. -/
theorem pieces_append_slash (cs ds : List Char) :
    pieces (cs ++ '/' :: ds) = pieces cs ++ .char '/' :: pieces ds := by
  induction cs using pieces.induct with
  | case1 => cases ds <;> rfl
  | case2 c =>
    have hnone : halfAt? [c, '/'] = none := by simp [halfAt?, halfBase]
    rcases ds with _ | ⟨d, ds⟩
    · simp [pieces, hnone]
    · simp only [List.cons_append, List.nil_append, pieces, hnone]
      rfl
  | case3 c d cs unit h ih => simp [pieces, h, ih]
  | case4 c d cs h ih =>
    have ih' : pieces (d :: (cs ++ '/' :: ds)) = pieces (d :: cs) ++ .char '/' :: pieces ds := ih
    simp [pieces, h, ih']

end Text

namespace Files.Path

variable {place rest names names' : List String} {name : String} {cwd p : Path} {k : Nat}

/-- A number of bytes with those of one more piece. -/
def addSize (n : Nat) (piece : Text.Piece) : Option Nat := (pieceSize? piece).map (n + ·)

theorem size?_eq_foldlM (s : String) : size? s = (Text.pieces s.toList).foldlM addSize 0 := rfl

theorem foldlM_addSize (pieces : List Text.Piece) (n : Nat) :
    pieces.foldlM addSize n = (pieces.foldlM addSize 0).map (n + ·) := by
  induction pieces generalizing n with
  | nil => rfl
  | cons piece pieces ih =>
    rw [List.foldlM_cons, List.foldlM_cons, addSize, addSize]
    rcases pieceSize? piece with _ | k
    · rfl
    · simp only [Option.map_some, Option.bind_eq_bind, Option.bind_some, Nat.zero_add]
      rw [ih (n + k), ih k, Option.map_map]
      congr 1
      funext m
      exact Nat.add_assoc n k m

/-- Texts with a slash between them are as long as both and the slash. -/
theorem size?_append_slash (s t : String) : size? (s ++ "/" ++ t) =
    (size? s).bind fun a => (size? t).map fun b => a + 1 + b := by
  have hchars : (s ++ "/" ++ t).toList = s.toList ++ '/' :: t.toList := by simp
  have hslash : ∀ a, addSize a (.char '/') = some (a + 1) := fun _ => rfl
  rw [size?_eq_foldlM, size?_eq_foldlM, hchars, Text.pieces_append_slash, List.foldlM_append]
  refine congrArg _ (funext fun a => ?_)
  rw [List.foldlM_cons, hslash, size?_eq_foldlM]
  exact foldlM_addSize _ (a + 1)

theorem size?_joinNames_cons (hnames : names ≠ []) : size? (joinNames (name :: names)) =
    (size? name).bind fun a => (size? (joinNames names)).map fun b => a + 1 + b := by
  obtain ⟨n, ns, rfl⟩ := List.exists_cons_of_ne_nil hnames
  exact size?_append_slash name (joinNames (n :: ns))

theorem exists_size?_joinNames_cons (hnames : names ≠ [])
    (h : size? (joinNames (name :: names)) = some k) :
    ∃ a b, size? name = some a ∧ size? (joinNames names) = some b ∧ k = a + 1 + b := by
  rw [size?_joinNames_cons hnames] at h
  obtain ⟨a, ha, h⟩ := Option.bind_eq_some_iff.mp h
  obtain ⟨b, hb, rfl⟩ := Option.map_eq_some_iff.mp h
  exact ⟨a, b, ha, hb, rfl⟩

/-- **A path gets shorter if names before its last one are left out.** -/
theorem exists_size?_above (h : size? (joinNames (place ++ rest ++ [name])) = some k) :
    ∃ j ≤ k, size? (joinNames (place ++ [name])) = some j := by
  induction place generalizing k with
  | nil =>
    induction rest generalizing k with
    | nil => exact ⟨k, Nat.le_refl k, h⟩
    | cons n rest ih =>
      obtain ⟨a, b, -, hb, rfl⟩ := exists_size?_joinNames_cons (by simp) h
      obtain ⟨j, hj, hsize⟩ := ih hb
      exact ⟨j, by omega, hsize⟩
  | cons n place ih =>
    obtain ⟨a, b, ha, hb, rfl⟩ := exists_size?_joinNames_cons (by simp) h
    obtain ⟨j, hj, hsize⟩ := ih hb
    have hnames : place ++ [name] ≠ [] := by simp
    refine ⟨a + 1 + j, by omega, ?_⟩
    rw [List.cons_append, size?_joinNames_cons hnames, ha, hsize]
    rfl

/-! ### Paths from the root -/

theorem toText_root (names : List String) : toText ⟨"/", names⟩ = "/" ++ joinNames names := by
  simp [toText]

theorem size?_root (names : List String) :
    size? (toText ⟨"/", names⟩) = (size? (joinNames names)).map (1 + ·) := by
  have hempty : "/" ++ joinNames names = "" ++ "/" ++ joinNames names := by
    rw [String.empty_append]
  rw [toText_root, hempty, size?_append_slash]
  rfl

theorem mem_joinNames {c : Char} (h : c ∈ (joinNames names).toList) :
    c = '/' ∨ ∃ n ∈ names, c ∈ n.toList := by
  induction names with
  | nil => simp [joinNames] at h
  | cons n names ih =>
    rcases names with _ | ⟨n', names⟩
    · exact .inr ⟨n, List.mem_cons_self, h⟩
    · simp only [joinNames, String.toList_append, List.mem_append] at h
      rcases h with (h | h) | h
      · exact .inr ⟨n, List.mem_cons_self, h⟩
      · exact .inl (by simpa using h)
      · obtain hslash | ⟨m, hm, hc⟩ := ih h
        · exact .inl hslash
        · exact .inr ⟨m, List.mem_cons_of_mem n hm, hc⟩

theorem mem_joinNames_of_mem {c : Char} {n : String} (hn : n ∈ names) (hc : c ∈ n.toList) :
    c ∈ (joinNames names).toList := by
  induction names with
  | nil => cases hn
  | cons m names ih =>
    rcases names with _ | ⟨m', names⟩
    · obtain rfl := List.mem_singleton.mp hn
      exact hc
    · simp only [joinNames, String.toList_append, List.mem_append]
      rcases List.mem_cons.mp hn with rfl | hn
      · exact .inl (.inl hc)
      · exact .inr (ih hn)

theorem isSome_size?_joinNames :
    (size? (joinNames names)).isSome ↔ ∀ n ∈ names, (size? n).isSome := by
  induction names with
  | nil => exact iff_of_true rfl nofun
  | cons n names ih =>
    rcases names with _ | ⟨n', names⟩
    · simp [joinNames]
    · rw [size?_joinNames_cons (by simp), List.forall_mem_cons, ← ih]
      rcases size? n with _ | a <;> simp

theorem fault?_eq_none_iff : p.fault? = none ↔
    (size? p.toText).isSome ∧ Char.ofNat 0 ∉ p.toText.toList := by
  unfold fault?
  dsimp only
  rcases hsize : size? p.toText with _ | k
  · simp
  · by_cases hzero : Char.ofNat 0 ∈ p.toText.toList <;> simp [hzero]

/-- **A path from the root can be handed to the system if each of its names can.** -/
theorem fault?_root_eq_none_iff : fault? ⟨"/", names⟩ = none ↔
    ∀ n ∈ names, (size? n).isSome ∧ Char.ofNat 0 ∉ n.toList := by
  rw [fault?_eq_none_iff, size?_root, Option.isSome_map, isSome_size?_joinNames, toText_root,
    String.toList_append, List.mem_append, not_or]
  constructor
  · rintro ⟨hsize, -, hzero⟩ n hn
    exact ⟨hsize n hn, fun hc => hzero (mem_joinNames_of_mem hn hc)⟩
  · intro h
    refine ⟨fun n hn => (h n hn).1, by decide, fun hc => ?_⟩
    obtain hslash | ⟨n, hn, hc⟩ := mem_joinNames hc
    · exact absurd hslash (by decide)
    · exact (h n hn).2 hc

theorem fault?_root_mono (h : fault? ⟨"/", names⟩ = none) (hsub : names' ⊆ names) :
    fault? ⟨"/", names'⟩ = none :=
  fault?_root_eq_none_iff.mpr fun n hn => fault?_root_eq_none_iff.mp h n (hsub hn)

theorem fault?_root_concat (h : fault? ⟨"/", names⟩ = none)
    (hname : (size? name).isSome ∧ Char.ofNat 0 ∉ name.toList) :
    fault? ⟨"/", names ++ [name]⟩ = none :=
  fault?_root_eq_none_iff.mpr (List.forall_mem_append.mpr
    ⟨fault?_root_eq_none_iff.mp h, List.forall_mem_singleton.mpr hname⟩)

theorem isTooLong_above (hf : fault? ⟨"/", place ++ rest ++ [name]⟩ = none)
    (h : isTooLong ⟨"/", place ++ rest ++ [name]⟩ = false) :
    isTooLong ⟨"/", place ++ [name]⟩ = false := by
  rw [fault?_eq_none_iff, size?_root, Option.isSome_map] at hf
  obtain ⟨k, hk⟩ := Option.isSome_iff_exists.mp hf.1
  obtain ⟨j, hj, hsize⟩ := exists_size?_above hk
  simp only [isTooLong, size?_root, hk, hsize, Option.map_some, Option.getD_some,
    decide_eq_false_iff_not] at h ⊢
  omega

end Files.Path

namespace Files.Tree

variable {t t' : Tree} {cwd p : Path} {place q start names rest : List String} {name : String}
  {node : Node}

/-! ### Trees where everything stands in a directory -/

/-- Everything stands in a directory. -/
def IsGrounded (t : Tree) : Prop :=
  ∀ place name, (t.node? (place ++ [name])).isSome → t.node? place = some .directory

/-- So there are directories all the way to it. -/
theorem IsGrounded.directory_above (hg : t.IsGrounded) (hq : (t.node? (place ++ rest)).isSome)
    (hrest : rest ≠ []) : t.node? place = some .directory := by
  induction rest using List.reverseRecOn with
  | nil => exact absurd rfl hrest
  | append_singleton rest name ih =>
    rw [← List.append_assoc] at hq
    have hd := hg _ _ hq
    rcases rest with _ | ⟨n, rest⟩
    · rwa [List.append_nil] at hd
    · exact ih (by rw [hd]; rfl) (by simp)

theorem IsGrounded.directory_of_isPrefix {before : List String} (hg : t.IsGrounded)
    (hd : t.node? place = some .directory) (hbefore : before <+: place) :
    t.node? before = some .directory := by
  obtain ⟨rest, rfl⟩ := hbefore
  rcases rest with _ | ⟨n, rest⟩
  · rwa [List.append_nil] at hd
  · exact hg.directory_above (by rw [hd]; rfl) (by simp)

/-! ### Following paths from the root -/

theorem follow_append (start before rest : List String) :
    t.follow start (before ++ rest) = t.follow start before >>= fun q => t.follow q rest := by
  induction before generalizing start with
  | nil => rfl
  | cons n before ih =>
    rw [List.cons_append, follow, follow]
    split
    · split_ifs
      · rfl
      · exact ih _
    · rfl
    · rfl

/-- A path through directories leads to its end, if no name on the way is too long. -/
theorem follow_of_directories (hdots : ".." ∉ names)
    (hd : ∀ before rest, names = before ++ rest → rest ≠ [] →
      t.node? (start ++ before) = some .directory) :
    t.follow start names = .ok (start ++ names) ∨ t.follow start names = .error .tooLong := by
  induction names generalizing start with
  | nil => exact .inl (by rw [List.append_nil]; rfl)
  | cons n names ih =>
    rw [List.mem_cons, not_or] at hdots
    have hstart : t.node? start = some .directory := by
      have h := hd [] (n :: names) rfl (by simp)
      rwa [List.append_nil] at h
    rw [follow, hstart]
    dsimp only
    split_ifs with hlong
    · exact .inr rfl
    · have hnext : Path.enter start n = start ++ [n] := if_neg fun e => hdots.1 e.symm
      have hafter : ∀ before rest, names = before ++ rest → rest ≠ [] →
          t.node? (start ++ [n] ++ before) = some .directory := by
        intro before rest he hrest
        have h := hd (n :: before) rest (by rw [he]; rfl) hrest
        rwa [List.append_cons] at h
      have hrest := ih hdots.2 hafter
      rw [hnext]
      rwa [List.append_assoc] at hrest

theorem join_root (cwd : Path) (names : List String) : cwd.join ⟨"/", names⟩ = ⟨"/", names⟩ := by
  simp [Path.join, Path.isAbsolute]

/-- Names without double dots are followed to their own place. -/
theorem eq_of_placeOf_root (hdots : ".." ∉ names) (h : t.placeOf cwd ⟨"/", names⟩ = .ok q) :
    q = names := by
  rw [eq_resolveNames_of_placeOf h, join_root, Path.resolveNames_of_not_mem hdots]

/-! ### Paths that can be looked up -/

/-- **The path can be looked up**: it can be handed to the system, and is not refused as too
long. -/
def CanLookUp (t : Tree) (cwd p : Path) : Prop :=
  p.fault? = none ∧ t.placeOf cwd p ≠ .error .tooLong

/-- **What can be looked up leads to what is at its place.** -/
theorem lookUp_root (hg : t.IsGrounded) (hdots : ".." ∉ names)
    (hl : t.CanLookUp cwd ⟨"/", names⟩) : t.lookUp cwd ⟨"/", names⟩ = .ok (t.node? names) := by
  obtain ⟨hfault, hlong⟩ := hl
  rcases hq : t.placeOf cwd ⟨"/", names⟩ with f | q
  · have hf : f ≠ .tooLong := fun e => hlong (by rw [hq, e])
    have hnone : t.node? names = none := by
      -- something there would be reached through directories
      by_contra hsome
      rw [← ne_eq, Option.ne_none_iff_isSome] at hsome
      have habove : ∀ before rest, names = before ++ rest → rest ≠ [] →
          t.node? ([] ++ before) = some .directory := fun before rest he hrest =>
        hg.directory_above (he ▸ hsome) hrest
      have hd := follow_of_directories hdots habove
      unfold placeOf at hq hlong
      rw [join_root] at hq hlong
      split_ifs at hq hlong with htotal
      · exact hlong rfl
      · rcases hd with hd | hd <;> rw [hd] at hq
        · cases hq
        · exact hf (Except.error.inj hq).symm
    rw [SameBut.lookUp_eq_none hq hf, hnone]
  · obtain rfl := eq_of_placeOf_root hdots hq
    simp [lookUp, hfault, hq]

/-- What is too long is refused. -/
theorem lookUp_of_tooLong (hf : p.fault? = none) (hlong : t.placeOf cwd p = .error .tooLong) :
    t.lookUp cwd p = .error (.file .tooLong p.toText) := by
  simp [lookUp, hf, hlong]

theorem exists?_of_tooLong (hf : p.fault? = none) (hlong : t.placeOf cwd p = .error .tooLong) :
    t.exists? cwd p = .error (.file .tooLong p.toText) := by
  rw [exists?, lookUp_of_tooLong hf hlong]
  rfl

theorem isDirectory_of_tooLong (hf : p.fault? = none)
    (hlong : t.placeOf cwd p = .error .tooLong) :
    t.isDirectory cwd p = .error (.file .tooLong p.toText) := by
  rw [isDirectory, lookUp_of_tooLong hf hlong]
  rfl

theorem canLookUp_root_iff : t.CanLookUp cwd ⟨"/", names⟩ ↔ Path.fault? ⟨"/", names⟩ = none ∧
    Path.isTooLong ⟨"/", names⟩ = false ∧ t.follow [] names ≠ .error .tooLong := by
  rw [CanLookUp, placeOf, join_root]
  rcases Path.isTooLong ⟨"/", names⟩ <;> simp

/-- A short name is not refused as too long. -/
theorem follow_concat_eq_tooLong_iff (hname : Path.isLongName name = false) :
    t.follow start (names ++ [name]) = .error .tooLong ↔
      t.follow start names = .error .tooLong := by
  rw [follow_append]
  rcases t.follow start names with f | q
  · rfl
  · simp only [bind, Except.bind, follow, hname]
    split <;> simp

theorem follow_eq_tooLong_of_append (h : t.follow start names = .error .tooLong) :
    t.follow start (names ++ rest) = .error .tooLong := by
  rw [follow_append, h]
  rfl

/-- **What can be looked up in a directory can be looked up in every directory above it.** -/
theorem canLookUp_above (hname : Path.isLongName name = false)
    (hl : t.CanLookUp cwd ⟨"/", place ++ rest ++ [name]⟩) :
    t.CanLookUp cwd ⟨"/", place ++ [name]⟩ := by
  rw [canLookUp_root_iff, ne_eq, follow_concat_eq_tooLong_iff hname] at hl ⊢
  obtain ⟨hfault, htotal, hlong⟩ := hl
  refine ⟨Path.fault?_root_mono hfault (by simp), Path.isTooLong_above hfault htotal, ?_⟩
  exact fun htoo => hlong (follow_eq_tooLong_of_append htoo)

/-- **A name is found in a directory above exactly where something stands there.** -/
theorem exists?_above (hg : t.IsGrounded) (hdots : ".." ∉ place ++ rest ++ [name])
    (hname : Path.isLongName name = false)
    (hl : t.CanLookUp cwd ⟨"/", place ++ rest ++ [name]⟩) :
    t.exists? cwd ⟨"/", place ++ [name]⟩ = .ok (t.node? (place ++ [name])).isSome := by
  have hdots' : ".." ∉ place ++ [name] := by
    simp only [List.mem_append, not_or] at hdots ⊢
    exact ⟨hdots.1.1, hdots.2⟩
  rw [exists?, lookUp_root hg hdots' (canLookUp_above hname hl)]
  rfl

/-- The place of a file that is to stand in a directory. -/
theorem filePlace_root (hg : t.IsGrounded) (hdots : ".." ∉ place ++ [name])
    (hd : t.node? place = some .directory) (hold : t.node? (place ++ [name]) ≠ some .directory)
    (hl : t.CanLookUp cwd ⟨"/", place ++ [name]⟩) :
    t.filePlace cwd ⟨"/", place ++ [name]⟩ = .ok (place ++ [name]) := by
  obtain ⟨hfault, htotal, hlong⟩ := canLookUp_root_iff.mp hl
  have habove : ∀ before rest, place ++ [name] = before ++ rest → rest ≠ [] →
      t.node? ([] ++ before) = some .directory := by
    intro before rest he hrest
    have hbefore : before <+: place ++ [name] := ⟨rest, he.symm⟩
    rcases List.prefix_concat_iff.mp hbefore with rfl | hbefore
    · exact absurd (List.append_cancel_left (he.symm.trans (List.append_nil _).symm)) hrest
    · exact hg.directory_of_isPrefix hd hbefore
  have hfollow := (follow_of_directories hdots habove).resolve_right hlong
  refine filePlace_of_placeOf hfault ?_ hold
  rw [placeOf, htotal, join_root, hfollow]
  rfl

/-! ### Directories that were made -/

theorem follow_of_makeDirectories {path : String} (hstart : t.node? start = some .directory)
    (h : makeDirectories path start names t = (.ok (), t')) :
    t'.follow start names = .ok (names.foldl Path.enter start) ∧
      t'.node? (names.foldl Path.enter start) = some .directory := by
  induction names generalizing start t with
  | nil =>
    obtain rfl := (Prod.mk.inj h).2
    exact ⟨rfl, hstart⟩
  | cons n names ih =>
    have hstart' : t'.node? start = some .directory := by
      have hkept : (makeDirectories path start (n :: names) t).2.node? start = some .directory :=
        node?_makeDirectories hstart
      rwa [h] at hkept
    rcases hlong : Path.isLongName n
    · rw [follow, hstart', hlong]
      rcases hn : t.node? (Path.enter start n) with _ | old
      · rw [makeDirectories_made hlong hn] at h
        exact ih (node?_put_self (ne_root_of_missing hn)) h
      · by_cases hdir : old = .directory
        · rw [hdir] at hn
          rw [makeDirectories_found hlong hn] at h
          exact ih hn h
        · obtain ⟨e, he⟩ := makeDirectories_blocked path names hlong hn hdir
          rw [he] at h
          cases h
    · rw [makeDirectories_long hlong] at h
      cases h

/-- **A directory that was made is found.** -/
theorem isDirectory_of_makePath (h : t.makePath cwd p = (.ok (), t')) :
    t'.isDirectory cwd p = .ok true := by
  unfold makePath at h
  rcases hf : p.fault? with _ | f <;> rw [hf] at h
  · dsimp only at h
    split_ifs at h with htotal
    · cases h
    · obtain ⟨hfollow, hnode⟩ := follow_of_makeDirectories rfl h
      have hplace : t'.placeOf cwd p = .ok ((cwd.join p).names.foldl Path.enter []) := by
        rw [placeOf, if_neg htotal, hfollow]
      simp only [isDirectory, lookUp, hf, hplace, hnode]
      rfl
  · cases h

end Files.Tree

end PairChat
