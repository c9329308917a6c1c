import PairChat.CommandLine.Report
import PairChat.Proofs.Discovered

/-!
# Requested accounts: as whom a client acts

Options may ask for an account.  The environment does not replace it (`user_withEnvironment`), and
it is refused together with the location of a homeserver (`url_of_fault?`), whose account is settled
by its token.  A client on a store then acts as it.

One way is left open.  Where nobody names a provider and the default source is a homeserver
(`DefaultsToHomeserver`), that homeserver is used, and the account that was asked for is forgotten.

* `actsAs_ofOptions_iff`: a client acts as the account, unless it is opened in this way.
* `requested_account_exact`: **the same for options and for the words of a command line.**
-/

namespace PairChat

open PairChat.Action
open Files (Path)

variable {env : Environment} {cwd : Path} {o : Options} {u : String}

/-! ### Options with an account -/

namespace Options

/-- The name of the home server plays no part in naming a provider. -/
theorem isExplicit_homeServer (o : Options) (v : Value) :
    ({ o with homeServer := v } : Options).isExplicit = o.isExplicit := rfl

/-- The environment does not replace an account that was asked for. -/
theorem user_withEnvironment (hu : u ≠ "") (ho : o.user = .text u) (env : Environment) :
    (o.withEnvironment env).user = .text u := by
  have huser : orVariable env Environment.userId o.user = .text u := by
    rw [orVariable, ho, Value.isEmpty_text hu, if_neg Bool.false_ne_true]
  simp only [withEnvironment, isExplicit_homeServer]
  split_ifs
  · exact ho
  · exact huser
  · exact huser

theorem isGiven_overriddenBy (name : String) (v : Value) :
    isGiven (overriddenBy env name v) = (isGiven v || (env.nonempty? name).isSome) := by
  unfold overriddenBy
  rcases env.nonempty? name with _ | s
  · simp
  · simp [isGiven]

/-- A provider is named by the options, or by a variable. -/
theorem isExplicit_withEnvironment (o : Options) (env : Environment) :
    (o.withEnvironment env).isExplicit = (o.isExplicit ||
      (env.nonempty? Environment.storePath).isSome ||
      (env.nonempty? Environment.serverUrl).isSome) := by
  simp only [withEnvironment, isExplicit_homeServer]
  split_ifs with he hurl
  -- what is completed besides is a token or an account, which names no provider
  · rw [he]
    exact he
  · rw [he]
    exact he
  · have hnone := he
    simp only [isExplicit, namesLocal, Bool.not_eq_true, Bool.or_eq_false_iff] at hnone
    obtain ⟨⟨⟨hpath, hlocal⟩, hmemory⟩, hurl⟩ := hnone
    simp [isExplicit, namesLocal, isGiven_overriddenBy, hpath, hlocal, hmemory, hurl]

/-- An account does not go together with the location of a homeserver. -/
theorem url_of_fault? (hu : u ≠ "") (ho : o.user = .text u) (hf : o.fault? = none) :
    isGiven o.url = false := by
  unfold fault? at hf
  split_ifs at hf with h1 h2 h3 h4
  rw [ho, Value.isEmpty_text hu] at h4
  simpa using h4

theorem target_eq_discovered_iff : o.target cwd = .ok .discovered ↔ o.isExplicit = false := by
  have hdirectory : ∀ r : Except Failure Path, r.map Target.directory ≠ .ok .discovered := by
    rintro (_ | _) <;> simp [Except.map]
  have hhomeserver : ∀ r : Except Failure String, r.map Target.homeserver ≠ .ok .discovered := by
    rintro (_ | _) <;> simp [Except.map]
  unfold target isExplicit namesLocal
  split_ifs with h1 h2 h3 h4 <;> simp_all

theorem isGiven_of_target {url : String} (ht : o.target cwd = .ok (.homeserver url)) :
    isGiven o.url = true := by
  have hdirectory : ∀ r : Except Failure Path,
      r.map Target.directory ≠ .ok (.homeserver url) := by
    rintro (_ | _) <;> simp [Except.map]
  unfold target at ht
  split_ifs at ht with h1 h2 h3 h4
  · cases ht
  · exact absurd ht (hdirectory _)
  · cases ht
  · exact h4
  · cases ht

end Options

theorem Settings.ofOptions_eq_ok {s : Settings} (hs : Settings.ofOptions env cwd o = .ok s) :
    s.options = o.withEnvironment env ∧ s.options.fault? = none ∧
      s.options.target cwd = .ok s.target := by
  unfold Settings.ofOptions at hs
  dsimp only at hs
  rcases hf : (o.withEnvironment env).fault? with _ | fault <;> rw [hf] at hs
  · obtain ⟨target, ht, hs⟩ := exists_of_bind_eq_ok hs
    obtain rfl := Except.ok.inj hs
    exact ⟨rfl, hf, ht⟩
  · cases hs

/-! ### Clients that are opened -/

/-- The client is an account of a store, and it is this one. -/
def Client.ActsAs (c : Client) (user : String) : Prop :=
  c.account?.map (·.user) = some (.text user)

/-- The client is an account of a homeserver that shows this token. -/
def Client.Shows (c : Client) (token : Value) : Prop :=
  ∃ account known, c.backend = .homeserver account known ∧ account.token = token

namespace Client

variable {ν : Type} {h h' : Host ν} {c : Client} {s : Settings} {path : Path}

/-- Whoever is asked who it is says so. -/
theorem ActsAs.outcome_account (hc : c.ActsAs u) (w : Web.Homeserver ν) :
    ((act w fun _ p => p.account).outcome ⟨h, c⟩).1 = .ok (.text u) := by
  obtain ⟨settings, backend, derived⟩ := c
  rcases backend with ⟨account, shelf, pending⟩ | ⟨account, known⟩
  · have huser : account.user = .text u := Option.some.inj hc
    rw [← huser]
    rfl
  · cases hc

theorem Shows.not_actsAs {token : Value} (hc : c.Shows token) : ¬ c.ActsAs u := by
  obtain ⟨account, known, hb, -⟩ := hc
  simp [ActsAs, account?, hb]

theorem shows_homeserver {url : String} {token : Value} (hc : homeserver s url token = .ok c) :
    c.Shows token := by
  obtain ⟨account, ha, hc⟩ := exists_of_bind_eq_ok hc
  obtain ⟨shown, -, ha⟩ := exists_of_bind_eq_ok ha
  obtain ⟨location, -, ha⟩ := exists_of_bind_eq_ok ha
  obtain rfl := Except.ok.inj hc
  split_ifs at ha
  · cases ha
  · obtain rfl := Except.ok.inj ha
    exact ⟨_, _, rfl, rfl⟩

theorem actsAs_openLocal (ho : (openLocal s path (.text u)).outcome h = (.ok c, h')) :
    c.ActsAs u := by
  obtain ⟨opened, h₁, -, ho⟩ := exists_of_outcome_bind ho
  obtain rfl := Except.ok.inj (Prod.mk.inj ho).1
  rfl

section Account
variable (hu : u ≠ "") (hs : s.options.user = .text u)
include hu hs

/-- On a local store that was found, the account that was asked for goes before that of the
source. -/
theorem actsAs_openFinding {f : Finding} (hlocal : f.isRemote = false)
    (ho : (openFinding s f).outcome h = (.ok c, h')) : c.ActsAs u := by
  have huser : orElse s.options.user f.user = .text u := by
    rw [orElse, hs, Value.isEmpty_text hu, if_neg Bool.false_ne_true]
  rw [openFinding, hlocal, if_neg Bool.false_ne_true] at ho
  rcases hp : f.path with _ | path <;> rw [hp] at ho
  · cases ho
  · dsimp only at ho
    rw [huser] at ho
    exact actsAs_openLocal ho

omit hu hs in
theorem shows_openFinding {f : Finding} (hremote : f.isRemote = true)
    (ho : (openFinding s f).outcome h = (.ok c, h')) : c.Shows f.token := by
  rw [openFinding, hremote, if_pos rfl] at ho
  split_ifs at ho with hnull
  · cases ho
  · obtain ⟨url, h₁, -, ho⟩ := exists_of_outcome_bind ho
    exact shows_homeserver (Prod.mk.inj ho).1

/-- Where a provider is named, the client acts as the account. -/
theorem actsAs_ofSettings (hurl : ∀ url, s.target ≠ .homeserver url)
    (hnamed : s.target ≠ .discovered) (ho : (ofSettings s).outcome h = (.ok c, h')) :
    c.ActsAs u := by
  unfold ofSettings at ho
  rcases ht : s.target with _ | path | _ | url | _ <;> rw [ht] at ho
  · obtain rfl := Except.ok.inj (Prod.mk.inj ho).1
    exact congrArg some hs
  · obtain ⟨opened, h₁, -, ho⟩ := exists_of_outcome_bind ho
    obtain rfl := Except.ok.inj (Prod.mk.inj ho).1
    exact congrArg some hs
  · obtain ⟨f, h₁, hf, ho⟩ := exists_of_outcome_bind ho
    exact actsAs_openFinding hu hs (Discovery.isRemote_of_find_local hf) ho
  · exact absurd ht (hurl url)
  · exact absurd ht hnamed

end Account

/-! ### Honoured or forgotten -/

end Client

/-- **Nobody names a provider, and the default source is a homeserver**: the one exception. -/
def DefaultsToHomeserver {ν : Type} (h : Host ν) (o : Options) (s : Source) : Prop :=
  o.isExplicit = false ∧ h.environment.nonempty? Environment.storePath = none ∧
    h.environment.nonempty? Environment.serverUrl = none ∧
    Discovery.IsDefaultSource h s ∧ s.isRemote

namespace Client

variable {ν : Type} {h h' : Host ν} {c : Client} {s : Settings} {path : Path} {src : Source}

/-- **A client acts as the account that was asked for, unless it is opened on the homeserver of the
default source**, and then it shows the token of that source. -/
theorem actsAs_ofOptions_iff (hu : u ≠ "") (huser : o.user = .text u)
    (ho : (ofOptions o).outcome h = (.ok c, h')) :
    (c.ActsAs u ↔ ¬ ∃ src, DefaultsToHomeserver h o src) ∧
      ∀ src, DefaultsToHomeserver h o src → c.Shows src.token := by
  have hread : (settingsOf o : Action (Host ν) Settings).IsRead :=
    isRead_getState.bind fun _ => isRead_lift _
  obtain ⟨s, hs, ho⟩ := hread.exists_of_outcome_bind ho
  obtain ⟨hoptions, hfault, htarget⟩ := Settings.ofOptions_eq_ok (Prod.mk.inj hs).1
  have hsuser : s.options.user = .text u := by
    rw [hoptions, Options.user_withEnvironment hu huser]
  have hurl : ∀ url, s.target ≠ .homeserver url := by
    intro url ht
    have hgiven := Options.isGiven_of_target (ht ▸ htarget)
    rw [Options.url_of_fault? hu hsuser hfault] at hgiven
    cases hgiven
  by_cases hnamed : s.target = .discovered
  · have hexplicit := Options.target_eq_discovered_iff.mp (hnamed ▸ htarget)
    rw [hoptions, Options.isExplicit_withEnvironment] at hexplicit
    simp only [Bool.or_eq_false_iff, Option.isSome_eq_false_iff, Option.isNone_iff_eq_none]
      at hexplicit
    obtain ⟨⟨hexplicit, hpath⟩, hserver⟩ := hexplicit
    rw [ofSettings, hnamed] at ho
    obtain ⟨f, h₁, hf, ho⟩ := exists_of_outcome_bind ho
    obtain ⟨hremote, hplace⟩ := Discovery.isRemote_find_iff hpath hserver hf
    rcases hr : f.isRemote
    · have hacts := actsAs_openFinding hu hsuser hr ho
      have hno : ∀ src, ¬ DefaultsToHomeserver h o src := by
        rintro src ⟨-, -, -, hsrc, hsr⟩
        rw [hremote.mpr ⟨src, hsrc, hsr⟩] at hr
        cases hr
      exact ⟨⟨fun _ ⟨src, hsrc⟩ => hno src hsrc, fun _ => hacts⟩,
        fun src hsrc => absurd hsrc (hno src)⟩
    · have hshows := shows_openFinding hr ho
      obtain ⟨src, hsrc, hsr⟩ := hremote.mp hr
      have hdefaults : DefaultsToHomeserver h o src := ⟨hexplicit, hpath, hserver, hsrc, hsr⟩
      refine ⟨⟨fun hacts => absurd hacts hshows.not_actsAs, fun hno => absurd ⟨src, hdefaults⟩ hno⟩,
        fun src' ⟨_, _, _, hsrc', hsr'⟩ => ?_⟩
      rw [← (hplace src' hsrc' hsr').2]
      exact hshows
  · have hacts := actsAs_ofSettings hu hsuser hurl hnamed ho
    have hno : ∀ src, ¬ DefaultsToHomeserver h o src := by
      rintro src ⟨hexplicit, hpath, hserver, -⟩
      refine hnamed (Except.ok.inj (htarget.symm.trans ?_))
      rw [Options.target_eq_discovered_iff, hoptions, Options.isExplicit_withEnvironment,
        hexplicit, hpath, hserver]
      rfl
    exact ⟨⟨fun _ ⟨src, hsrc⟩ => hno src hsrc, fun _ => hacts⟩,
      fun src hsrc => absurd hsrc (hno src)⟩

/-- A source in a local store is opened as the account. -/
theorem actsAs_ofSource (hu : u ≠ "") (hlocal : src.isRemote = false)
    (ho : (ofSource src (.text u)).outcome h = (.ok c, h')) : c.ActsAs u := by
  have huser : orElse (.text u) src.user = .text u := by
    rw [orElse, Value.isEmpty_text hu, if_neg Bool.false_ne_true]
  rw [ofSource, hlocal, if_neg Bool.false_ne_true, huser] at ho
  have hexplicit : (Options.forLocal src.path (.text u) false).isExplicit = true := by
    unfold Options.forLocal
    split_ifs with hempty
    · simp [Options.isExplicit, Options.namesLocal]
    · have hgiven : Options.isGiven src.path = true := by
        rw [Options.isGiven, bne_iff_ne]
        intro hnull
        rw [hnull] at hempty
        exact hempty rfl
      simp [Options.isExplicit, Options.namesLocal, hgiven]
  have hsame : (Options.forLocal src.path (.text u) false).user = .text u := by
    unfold Options.forLocal
    split_ifs <;> rfl
  refine (actsAs_ofOptions_iff hu hsame ho).1.mpr ?_
  rintro ⟨src', hno, -⟩
  rw [hexplicit] at hno
  cases hno

end Client

namespace CommandLine.Command

variable {ν : Type} {h h' : Host ν} {c : Client} {scope : Scope}

/-- A source that is named on the command line is in a local store, if an account is asked for. -/
theorem clientFor_named {name : String} (hname : scope.source = some name)
    (huser : scope.user = some u) (ho : (clientFor scope).outcome h = (.ok (.ok c), h')) :
    ∃ src, src.isRemote = false ∧ (Client.ofSource src (.text u)).outcome h = (.ok c, h') := by
  unfold clientFor at ho
  rw [hname, huser] at ho
  obtain ⟨ss, -, ho⟩ := Sources.isRead_load.exists_of_outcome_bind ho
  rcases hf : ss.find? (.text name) with _ | src
  · rw [hf] at ho
    cases ho
  · rw [hf] at ho
    dsimp only at ho
    split_ifs at ho with hremote
    · cases ho
    · obtain ⟨c', h₁, hc, ho⟩ := exists_of_outcome_bind ho
      obtain ⟨hc', rfl⟩ := Prod.mk.inj ho
      obtain rfl := Except.ok.inj (Except.ok.inj hc')
      exact ⟨src, by simpa using hremote, hc⟩

/-- Without a source, the client is opened with nothing but the account. -/
theorem clientFor_unnamed (hname : scope.source = none) (huser : scope.user = some u)
    (ho : (clientFor scope).outcome h = (.ok (.ok c), h')) :
    (Client.ofOptions { user := .text u }).outcome h = (.ok c, h') := by
  unfold clientFor at ho
  rw [hname, huser] at ho
  obtain ⟨c', h₁, hc, ho⟩ := exists_of_outcome_bind ho
  obtain ⟨hc', rfl⟩ := Prod.mk.inj ho
  obtain rfl := Except.ok.inj (Except.ok.inj hc')
  exact hc

end CommandLine.Command

/-- **As whom a client acts, if an account was asked for.** It acts as that account, whether options
or the words of a command line ask for it, and whatever the environment, the sources and the files
are.  The one exception is that nobody names a provider or a source and the default source is a
homeserver: then the client is an account of that homeserver, the one with the token of the
source. -/
theorem requested_account_exact {ν : Type} (h : Host ν) (u : String) (hu : u ≠ "") :
    (∀ o c h', o.user = .text u → (Client.ofOptions o).outcome h = (.ok c, h') →
      (c.ActsAs u ↔ ¬ ∃ src, DefaultsToHomeserver h o src) ∧
        ∀ src, DefaultsToHomeserver h o src → c.Shows src.token) ∧
    (∀ (scope : CommandLine.Scope) c h', scope.user = some u →
      (CommandLine.Command.clientFor scope).outcome h = (.ok (.ok c), h') →
      (c.ActsAs u ↔
        ¬ (scope.source = none ∧ ∃ src, DefaultsToHomeserver h { user := .text u } src)) ∧
      ∀ src, scope.source = none → DefaultsToHomeserver h { user := .text u } src →
        c.Shows src.token) := by
  refine ⟨fun o c h' huser ho => Client.actsAs_ofOptions_iff hu huser ho, ?_⟩
  intro scope c h' huser ho
  rcases hname : scope.source with _ | name
  · have hopened := CommandLine.Command.clientFor_unnamed hname huser ho
    obtain ⟨hiff, hshows⟩ := Client.actsAs_ofOptions_iff hu rfl hopened
    exact ⟨by simpa using hiff, fun src _ => hshows src⟩
  · obtain ⟨src, hlocal, hopened⟩ := CommandLine.Command.clientFor_named hname huser ho
    have hacts := Client.actsAs_ofSource hu hlocal hopened
    exact ⟨⟨fun _ hno => (nomatch hno.1), fun _ => hacts⟩, fun src hnone => nomatch hnone⟩

/-- A host whose default source is a homeserver. -/
def workHost : Host Unit where
  environment := [(Environment.home, "/home/me")]
  tree := [(["home"], .directory), (["home", "me"], .directory),
    (["home", "me", ".config"], .directory),
    (["home", "me", ".config", "directchats"], .directory),
    (["home", "me", ".config", "directchats", "config.yaml"], .file (String.join [
      "sources:\n", "- name: work\n", "  type: remote\n", "  url: https://example.org\n",
      "  access_token: t\n", "default_source: work\n"]))]
  server := ()

/-- A store in memory is named, so the account is honoured there. -/
theorem requested_account_memory : "@u:localhost" ≠ "" ∧
    ∃ c h', (Client.ofOptions { inMemory := true, user := .text "@u:localhost" }).outcome workHost =
      (.ok c, h') ∧ c.ActsAs "@u:localhost" := by
  refine ⟨by decide, ?_⟩
  have hopens : ((Client.ofOptions { inMemory := true, user := .text "@u:localhost" }).outcome
      workHost).1.isOk = true := by decide +kernel
  rcases hc : (Client.ofOptions { inMemory := true, user := .text "@u:localhost" }).outcome
    workHost with ⟨e | c, h'⟩
  · rw [hc] at hopens
    cases hopens
  · refine ⟨c, h', rfl, ?_⟩
    refine ((requested_account_exact workHost "@u:localhost" (by decide)).1 _ c h' rfl hc).1.mpr ?_
    rintro ⟨src, hno, -⟩
    exact absurd hno (by decide)

/-- Without a provider or a source, the homeserver of the default source is used and the account
that was asked for is forgotten. -/
theorem requested_account_forgotten : ∃ c h',
    (Client.ofOptions { user := .text "@u:localhost" }).outcome workHost = (.ok c, h') ∧
      c.kind = "remote" ∧ ¬ c.ActsAs "@u:localhost" := by
  have hopens : (((Client.ofOptions { user := .text "@u:localhost" }).outcome
      workHost).1.toOption.map fun c => (c.kind, c.account?)) = some ("remote", none) := by
    decide +kernel
  rcases hc : (Client.ofOptions { user := .text "@u:localhost" }).outcome workHost with ⟨e | c, h'⟩
  · rw [hc] at hopens
    cases hopens
  · rw [hc] at hopens
    obtain ⟨hkind, haccount⟩ := Prod.mk.inj (Option.some.inj hopens)
    refine ⟨c, h', rfl, hkind, ?_⟩
    rw [Client.ActsAs, haccount]
    nofun

end PairChat
