import PairChat.Store.Directory
import PairChat.Proofs.HostFiles

/-!
# Opening: stores that are found again

A store in a directory is a document with the name of its home server, and a file with its tables.
`Directory.IsFound` says that both are in their places.

* `isFound_openOrMake`: **whatever was opened or made is found from then on.**  That a document that
  was written is read as it was is assumed of the writer and the reader.
* `IsFound.put`: it is still found after its tables were changed.
* `IsFound.outcome_openOrMake`: opening what is found changes nothing.
-/

namespace PairChat.Store.Directory

open PairChat.Action
open Files (Path Node Tree)

variable {ν : Type} {h h' : Host ν} {t : Tree} {cwd p : Path} {s : Opened}

/-! ### Opening as it goes -/

/-- The name of the home server of the store at a path. -/
def homeServerAt (t : Tree) (cwd p : Path) : Except Failure Value := do
  if ← t.exists? cwd (configFile p) then
    homeServerOf (← Yaml.read (← t.text cwd (configFile p)))
  else .ok (.text defaultHomeServer)

theorem outcome_loadHomeServer (p : Path) :
    (loadHomeServer p).outcome h = (homeServerAt h.tree h.directory p, h) :=
  Yaml.outcome_loadOr homeServerOf (.text defaultHomeServer) (configFile p)

theorem openedAs_eq_ok {old : Option Node} {node : Node} (h : openedAs old = .ok node) :
    ∃ tables, node = .store tables := by
  unfold openedAs at h
  split at h
  · exact ⟨_, (Except.ok.inj h).symm⟩
  · exact ⟨_, (Except.ok.inj h).symm⟩
  · split_ifs at h
    exact ⟨_, (Except.ok.inj h).symm⟩
  · cases h

/-- The file of the tables after it was opened. -/
theorem outcome_openTables {place : List String} (ho : (openTables p).outcome h = (.ok place, h')) :
    h.tree.placeOf h.directory (tablesFile p) = .ok place ∧ isLongPlace place = false ∧
      h.tree.node? place ≠ some .directory ∧
      ∃ tables, h' = { h with tree := Tree.put place (.store tables) h.tree } := by
  unfold openTables at ho
  simp only [outcome_bind, outcome_getState] at ho
  rcases hp : h.tree.placeOf h.directory (tablesFile p) with fault | q <;> rw [hp] at ho
  · cases ho
  · dsimp only at ho
    split_ifs at ho with hlong
    · cases ho
    · simp only [outcome_bind, outcome_lift, outcome_setState, outcome_pure] at ho
      rcases hn : openedAs (h.tree.node? q) with e | node <;> rw [hn] at ho
      · cases ho
      · obtain ⟨hq, rfl⟩ := Prod.mk.inj ho
        obtain rfl := Except.ok.inj hq
        refine ⟨rfl, by simpa using hlong, ?_, ?_⟩
        · intro hd
          rw [hd] at hn
          cases hn
        · obtain ⟨tables, rfl⟩ := openedAs_eq_ok hn
          exact ⟨tables, rfl⟩

/-! ### Stores that are found -/

/-- **A store is found at the path**: its home server, and the file with its tables. -/
structure IsFound (t : Tree) (cwd p : Path) (s : Opened) : Prop where
  path : t.exists? cwd p = .ok true
  homeServer : homeServerAt t cwd p = .ok s.homeServer
  place : t.placeOf cwd (tablesFile p) = .ok s.file
  short : isLongPlace s.file = false
  tables : ∃ tables, t.node? s.file = some (.store tables)

theorem names_join_child (cwd p : Path) (name : String) :
    (cwd.join (p.child name)).names = (cwd.join p).names ++ [name] := by
  unfold Path.join Path.child Path.isAbsolute
  split_ifs
  · rfl
  · exact (List.append_assoc _ _ _).symm

/-- A file of the store stands in the directory of the store. -/
theorem placeOf_child {name : String} {place : List String} (hname : name ≠ "..")
    (hp : t.placeOf cwd (p.child name) = .ok place) :
    ∃ d, t.follow [] (cwd.join p).names = .ok d ∧ t.node? d = some .directory ∧
      place = d ++ [name] := by
  unfold Tree.placeOf at hp
  split_ifs at hp
  rw [names_join_child] at hp
  exact Tree.follow_concat _ hname hp

section Place
variable {place : List String} (hp : t.placeOf cwd (tablesFile p) = .ok place)
include hp

theorem placeOf_ne_tables : t.placeOf cwd p ≠ .ok place := by
  obtain ⟨d, hd, -, rfl⟩ := placeOf_child (by decide) hp
  unfold Tree.placeOf
  split_ifs
  · simp
  · simp [hd]

theorem placeOf_configFile_ne_tables : t.placeOf cwd (configFile p) ≠ .ok place := by
  obtain ⟨d, hd, -, rfl⟩ := placeOf_child (by decide) hp
  intro hc
  obtain ⟨d', hd', -, he⟩ := placeOf_child (by decide) hc
  obtain rfl := Except.ok.inj (hd.symm.trans hd')
  simp at he

end Place

section Put
variable {place : List String} {node : Node} (hold : t.node? place ≠ some .directory)
  (hnode : node ≠ .directory)
include hold hnode

theorem exists?_put {b : Bool} (hne : t.placeOf cwd p ≠ .ok place)
    (hb : t.exists? cwd p = .ok b) : (Tree.put place node t).exists? cwd p = .ok b := by
  rw [Tree.exists?, Tree.lookUp_put hold hnode hne]
  exact hb

theorem homeServerAt_put {v : Value} (hne : t.placeOf cwd (configFile p) ≠ .ok place)
    (hv : homeServerAt t cwd p = .ok v) : homeServerAt (Tree.put place node t) cwd p = .ok v := by
  unfold homeServerAt at hv ⊢
  rcases hb : t.exists? cwd (configFile p) with e | _ | _ <;> rw [hb] at hv
  · cases hv
  · rw [exists?_put hold hnode hne hb]
    exact hv
  · rw [exists?_put hold hnode hne hb]
    rcases hs : t.text cwd (configFile p) with e | text <;> rw [hs] at hv
    · cases hv
    · rw [Tree.text_put hold hnode hne hs]
      exact hv

end Put

namespace IsFound

theorem not_directory (hf : IsFound t cwd p s) : t.node? s.file ≠ some .directory := by
  obtain ⟨tables, hn⟩ := hf.tables
  simp [hn]

theorem file_ne_root (hf : IsFound t cwd p s) : s.file ≠ [] :=
  Tree.ne_root_of_node? hf.not_directory

/-- **A store is still found after its tables were changed.** -/
theorem put (hf : IsFound t cwd p s) (tables : Tables) :
    IsFound (Tree.put s.file (.store tables) t) cwd p s := by
  have hold := hf.not_directory
  have hnode : Node.store tables ≠ .directory := by simp
  exact {
    path := exists?_put hold hnode (placeOf_ne_tables hf.place) hf.path
    homeServer := homeServerAt_put hold hnode (placeOf_configFile_ne_tables hf.place) hf.homeServer
    place := Tree.placeOf_put hold hnode hf.place
    short := hf.short
    tables := ⟨tables, Tree.node?_put_self hf.file_ne_root⟩ }

/-- **Opening a store that is found changes nothing.** -/
theorem outcome_openOrMake (hf : IsFound h.tree h.directory p s) (createIfMissing : Bool)
    (homeServer : Value) :
    (openOrMake p createIfMissing homeServer).outcome h = (.ok s, h) := by
  obtain ⟨tables, hn⟩ := hf.tables
  have hl : h.tree.lookup s.file = some (.store tables) := by
    rw [Tree.node?, if_neg hf.file_ne_root] at hn
    exact hn
  have hopen : (openTables p).outcome h = (.ok s.file, h) := by
    simp only [openTables, outcome_bind, outcome_getState, hf.place, hf.short, Bool.false_eq_true,
      if_false, outcome_lift, hn, openedAs, outcome_setState, outcome_pure, Tree.put_eq_self hl]
  simp only [openOrMake, load, outcome_bind, Host.outcome_exists?, hf.path, if_true,
    outcome_loadHomeServer, hf.homeServer, hopen, outcome_pure]

end IsFound

/-! ### Opening and making -/

/-- What is opened is found. -/
theorem isFound_of_openTables {server : Value} {place : List String}
    (hpath : h.tree.exists? h.directory p = .ok true)
    (hserver : homeServerAt h.tree h.directory p = .ok server)
    (ho : (openTables p).outcome h = (.ok place, h')) :
    IsFound h'.tree h'.directory p ⟨server, place⟩ := by
  obtain ⟨hplace, hshort, hold, tables, rfl⟩ := outcome_openTables ho
  have hnode : Node.store tables ≠ .directory := by simp
  exact {
    path := exists?_put hold hnode (placeOf_ne_tables hplace) hpath
    homeServer := homeServerAt_put hold hnode (placeOf_configFile_ne_tables hplace) hserver
    place := Tree.placeOf_put hold hnode hplace
    short := hshort
    tables := ⟨tables, Tree.node?_put_self (Tree.ne_root_of_node? hold)⟩ }

theorem isFound_of_load (hpath : h.tree.exists? h.directory p = .ok true)
    (ho : (load p).outcome h = (.ok s, h')) : IsFound h'.tree h'.directory p s := by
  obtain ⟨server, h₁, hload, ho⟩ := exists_of_outcome_bind ho
  rw [outcome_loadHomeServer] at hload
  obtain ⟨hserver, rfl⟩ := Prod.mk.inj hload
  obtain ⟨place, h₂, hopen, ho⟩ := exists_of_outcome_bind ho
  obtain ⟨hs, rfl⟩ := Prod.mk.inj ho
  rw [← Except.ok.inj hs]
  exact isFound_of_openTables hpath hserver hopen

/-- The path can be looked up after the directories on the way to it were made. -/
theorem outcome_makePath (ho : (Host.makePath p).outcome h = (.ok (), h')) :
    p.fault? = none ∧ p.isTooLong = false ∧ h'.directory = h.directory := by
  have hr : (h.tree.makePath h.directory p).1 = .ok () := congrArg Prod.fst ho
  have hh : { h with tree := (h.tree.makePath h.directory p).2 } = h' := congrArg Prod.snd ho
  have hdir : h'.directory = h.directory := by rw [← hh]
  unfold Tree.makePath at hr
  rcases hf : p.fault? with _ | f <;> rw [hf] at hr
  · rcases hlong : p.isTooLong
    · exact ⟨rfl, rfl, hdir⟩
    · rw [hlong] at hr
      cases hr
  · cases hr

/-- The document of a store that is made. -/
def configText (server : String) : String := Yaml.write [(.text "home_server", .text server)]

theorem outcome_saveHomeServer {server : String}
    (ho : (saveHomeServer p (.text server)).outcome h = (.ok (), h')) :
    ∃ place, h.tree.filePlace h.directory (configFile p) = .ok place ∧
      h' = { h with tree := Tree.put place (.file (configText server)) h.tree } := by
  have htexts : Yaml.entriesOfTexts [(.text "home_server", .text server)] = true := rfl
  rw [saveHomeServer, Yaml.outcome_save htexts] at ho
  rcases hp : h.tree.filePlace h.directory (configFile p) with e | place
  · rw [Host.outcome_writeFile_error hp] at ho
    cases ho
  · rw [Host.outcome_writeFile hp] at ho
    exact ⟨place, rfl, (congrArg Prod.snd ho).symm⟩

/-- **The home server of a store that was made is read as it was written**, if this holds of the
document. -/
theorem homeServerAt_of_saved {server : String} (hlong : p.isTooLong = false)
    (hfault : p.fault? = none) {place : List String}
    (hp : t.filePlace cwd (configFile p) = .ok place)
    (hyaml : Yaml.read (configText server) = .ok (.map [(.text "home_server", .text server)])) :
    (Tree.put place (.file (configText server)) t).exists? cwd p = .ok true ∧
      homeServerAt (Tree.put place (.file (configText server)) t) cwd p = .ok (.text server) := by
  obtain ⟨-, hplace, hold⟩ := Tree.filePlace_eq_ok hp
  have hput : (Tree.put place (.file (configText server)) t).filePlace cwd (configFile p) =
      .ok place ∧ (Tree.put place (.file (configText server)) t).node? place =
        some (.file (configText server)) := Tree.filePlace_put hp
  have hnode : Node.file (configText server) ≠ .directory := by simp
  obtain ⟨d, hd, hdir, rfl⟩ := placeOf_child (by decide) hplace
  constructor
  · have hpath : t.placeOf cwd p = .ok d := by
      rw [Tree.placeOf, hlong, if_neg Bool.false_ne_true, hd]
    refine exists?_put hold hnode ?_ (Tree.exists?_eq_true_iff.mpr ⟨hfault, d, hpath, ?_⟩)
    · simp [hpath]
    · rw [hdir]
      rfl
  · exact Yaml.readOr_written rfl hput.1 hput.2 hyaml homeServerOf (.text defaultHomeServer)

theorem isFound_of_make {homeServer : Value} {server : String}
    (hserver : s.homeServer = .text server)
    (hyaml : Yaml.read (configText server) = .ok (.map [(.text "home_server", .text server)]))
    (ho : (make p homeServer).outcome h = (.ok s, h')) : IsFound h'.tree h'.directory p s := by
  obtain ⟨⟨⟩, h₁, hmake, ho⟩ := exists_of_outcome_bind ho
  dsimp only at ho
  obtain ⟨⟨⟩, h₂, hsave, ho⟩ := exists_of_outcome_bind ho
  obtain ⟨place, h₃, hopen, ho⟩ := exists_of_outcome_bind ho
  obtain ⟨hs, rfl⟩ := Prod.mk.inj ho
  obtain rfl := Except.ok.inj hs
  dsimp only at hserver
  rw [hserver] at hsave ⊢
  obtain ⟨hfault, hlong, -⟩ := outcome_makePath hmake
  obtain ⟨config, hconfig, rfl⟩ := outcome_saveHomeServer hsave
  obtain ⟨hpath, hread⟩ := homeServerAt_of_saved hlong hfault hconfig hyaml
  refine isFound_of_openTables ?_ ?_ hopen
  · exact hpath
  · exact hread

/-- **Whatever was opened or made is found from then on.** -/
theorem isFound_openOrMake {createIfMissing : Bool} {homeServer : Value} {server : String}
    (hserver : s.homeServer = .text server)
    (hyaml : Yaml.read (configText server) = .ok (.map [(.text "home_server", .text server)]))
    (ho : (openOrMake p createIfMissing homeServer).outcome h = (.ok s, h')) :
    IsFound h'.tree h'.directory p s := by
  rw [openOrMake, outcome_bind, Host.outcome_exists?] at ho
  rcases hb : h.tree.exists? h.directory p with e | _ | _ <;> rw [hb] at ho
  · cases ho
  · cases createIfMissing
    · cases ho
    · simp only [Bool.false_eq_true, if_false, if_true] at ho
      exact isFound_of_make hserver hyaml ho
  · simp only [if_true] at ho
    exact isFound_of_load hb ho

end PairChat.Store.Directory
