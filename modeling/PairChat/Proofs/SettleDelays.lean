import PairChat.Proofs.ExplicitChoice
import PairChat.Web.Script

/-!
# Settle delays: how long a client waits after a change

A client waits for the seconds that it was given, or as long as is usual for its provider.  The
settings say so where the provider was named; where a homeserver was discovered they are patched,
and a client that acts as another account takes them over.  `Client.IsOpened` are the clients that
come about in any of these ways, with the seconds that were given.

* `IsOpened.follows`: what the settings of such a client say.
* `continues_perform`, `continues_actingAs`: what an operation waits for, as the account of the
  client or as another one.
* `settle_delay_law`: **how long every client waits, and when.**
-/

namespace PairChat

open PairChat.Action
open Files (Path)

variable {ν : Type}

/-! ### Visits that go on -/

/-- The client goes on with its settings and its kind of provider, and these waits have been
added. -/
structure Visit.Continues (v v' : Visit ν) (waits : List Decimal) : Prop where
  settings : v'.client.settings = v.client.settings
  kind : v'.client.kind = v.client.kind
  waits : v'.host.waits = v.host.waits ++ waits

namespace Visit.Continues

variable {v v' v'' : Visit ν} {ws ws' : List Decimal}

theorem refl (v : Visit ν) : v.Continues v [] := ⟨rfl, rfl, (List.append_nil _).symm⟩

theorem trans (h : v.Continues v' ws) (h' : v'.Continues v'' ws') :
    v.Continues v'' (ws ++ ws') :=
  ⟨h'.settings.trans h.settings, h'.kind.trans h.kind,
    by rw [h'.waits, h.waits, List.append_assoc]⟩

end Visit.Continues

namespace Client

variable {v w : Visit ν} {s : Settings} {c : Client} {user : Value}

theorem continues_onStore {α : Type} (otherwise : Failure) (f : Store.Account → Action Store α)
    (v : Visit ν) : v.Continues ((onStore otherwise f).outcome v).2 [] := by
  obtain ⟨h, settings, backend, derived⟩ := v
  rcases backend with ⟨account, shelf, pending⟩ | ⟨account, known⟩
  · cases shelf <;> exact ⟨rfl, rfl, (List.append_nil _).symm⟩
  · exact .refl _

theorem continues_act {α : Type} (w : Web.Homeserver ν)
    (f : (σ : Type) → Provider σ → Action σ α) (v : Visit ν) :
    v.Continues ((act w f).outcome v).2 [] := by
  obtain ⟨h, settings, backend, derived⟩ := v
  rcases backend with ⟨account, shelf, pending⟩ | ⟨account, known⟩
  · exact continues_onStore .assertion (fun account => f Store account.provider) _
  · exact ⟨rfl, rfl, (List.append_nil _).symm⟩

theorem continues_close (v : Visit ν) : v.Continues (close.outcome v).2 [] := by
  obtain ⟨h, settings, backend, derived⟩ := v
  rcases backend with ⟨account, shelf, pending⟩ | ⟨account, known⟩ <;>
    exact ⟨rfl, rfl, (List.append_nil _).symm⟩

/-- The waits after an operation with this result. -/
def waitsAfter {α : Type} (op : Operation) (result : Except Failure α) (delay : Decimal) :
    List Decimal :=
  if op.changes && result.isOk && delay.isPositive then [delay] else []

theorem continues_settle (v : Visit ν) : (settle.outcome v).1 = .ok () ∧
    v.Continues (settle.outcome v).2
      (if v.client.settings.delay.isPositive then [v.client.settings.delay] else []) := by
  unfold settle
  rw [outcome_bind_ok (outcome_getState v)]
  dsimp only
  split_ifs
  · exact ⟨rfl, rfl, rfl, rfl⟩
  · exact ⟨rfl, .refl v⟩

/-- **An operation waits once if it changed something.** -/
theorem continues_perform (w : Web.Homeserver ν) (op : Operation) (v : Visit ν) :
    v.Continues ((perform w op).outcome v).2
      (waitsAfter op ((perform w op).outcome v).1 v.client.settings.delay) := by
  have hact := continues_act w (fun _ p => op.perform p) v
  unfold perform
  rw [outcome_bind]
  rcases hr : (act w fun _ p => op.perform p).outcome v with ⟨e | answer, v'⟩ <;> rw [hr] at hact
  · simpa [waitsAfter, Except.isOk, Except.toBool] using hact
  · dsimp only
    rcases hchanges : op.changes
    · simpa [waitsAfter, hchanges] using hact
    · obtain ⟨hok, hsettle⟩ := continues_settle v'
      rw [if_pos rfl, outcome_bind]
      rcases hs : settle.outcome v' with ⟨r, v''⟩
      rw [hs] at hok hsettle
      dsimp only at hok
      subst hok
      have hdelay := congrArg Settings.delay hact.settings
      dsimp only at hdelay
      rw [hdelay] at hsettle
      simpa [waitsAfter, hchanges, Except.isOk, Except.toBool] using hact.trans hsettle

/-! ### Acting as another account -/

theorem outcome_asUser {α : Type} (user : Value) (a : Action (Visit ν) α) (v : Visit ν) :
    (asUser user a).outcome v = match derivedSettings user v with
      | .error e => (.error e, v)
      | .ok s =>
        let r := a.outcome { v with client := v.client.derived s user }
        (r.1, { r.2 with client := v.client.restored r.2.client }) := by
  unfold asUser
  rw [outcome_bind_ok (outcome_getState v), outcome_bind, outcome_lift]
  rcases derivedSettings user v with e | s <;> rfl

/-- Only a client on a store acts as another account. -/
theorem kind_of_derivedSettings (hs : derivedSettings user v = .ok s) :
    v.client.kind ≠ "remote" := by
  obtain ⟨h, settings, backend, derived⟩ := v
  rcases backend with ⟨account, shelf, pending⟩ | ⟨account, known⟩
  · cases shelf <;> simp [kind, Shelf.kind]
  · cases hs

theorem kind_derived (c : Client) (s : Settings) (user : Value) :
    (c.derived s user).kind = c.kind := by
  obtain ⟨settings, backend, derived⟩ := c
  cases backend <;> rfl

theorem settings_restored (c d : Client) : (c.restored d).settings = c.settings := by
  obtain ⟨settings, backend, derived⟩ := c
  cases backend <;> rfl

theorem kind_restored {d : Client} (h : d.kind = c.kind) : (c.restored d).kind = c.kind := by
  obtain ⟨settings, backend, derived⟩ := c
  obtain ⟨settings', backend', derived'⟩ := d
  rcases backend with ⟨account, shelf, pending⟩ | ⟨account, known⟩
  · rcases backend' with ⟨account', shelf', pending'⟩ | ⟨account', known'⟩
    · exact h
    · exact h
  · rfl

/-! ### Clients that were opened -/

/-- **The client was opened**, with these seconds to wait if any were given: from options, by making
a store, from a source, as another account of a client that was opened, or by going on with one. -/
inductive IsOpened : Option Decimal → Client → Prop
  | ofOptions {ν : Type} {h h' : Host ν} {o : Options} {c : Client}
    (ho : (ofOptions o).outcome h = (.ok c, h')) : IsOpened o.settleDelay c
  | created {ν : Type} {h h' : Host ν} {path : Option Path} {homeServer : Value} {ignore : Bool}
    {c : Client} (ho : (create path homeServer ignore).outcome h = (.ok c, h')) : IsOpened none c
  | ofSource {ν : Type} {h h' : Host ν} {source : Source} {user : Value} {c : Client}
    (ho : (ofSource source user).outcome h = (.ok c, h')) : IsOpened none c
  | derived {ν : Type} {v : Visit ν} {given : Option Decimal} {user : Value} {s : Settings}
    (hc : IsOpened given v.client) (hs : derivedSettings user v = .ok s) :
    IsOpened given (v.client.derived s user)
  | continued {ν : Type} {v v' : Visit ν} {given : Option Decimal} {waits : List Decimal}
    (hc : IsOpened given v.client) (hv : v.Continues v' waits) : IsOpened given v'.client

/-- What the settings say about waiting: as long as was given on a store, and as long as was given
or as is usual on a homeserver. -/
structure Follows (c : Client) (given : Option Decimal) : Prop where
  stored : c.kind ≠ "remote" → c.settings.options.settleDelay = given
  elsewhere : c.kind ≠ "remote" → c.settings.target.isHomeserver = false
  memory : c.settings.target = .memory ↔ c.kind = "in_memory"
  usual : c.kind = "remote" → c.settings.delay = given.getD Settings.usualDelay

variable {given : Option Decimal}

theorem Follows.delay_eq (h : c.Follows given) : c.settings.delay =
    given.getD (if c.kind = "remote" then Settings.usualDelay else .zero) := by
  by_cases hkind : c.kind = "remote"
  · rw [h.usual hkind, if_pos hkind]
  · rw [Settings.delay, h.stored hkind, h.elsewhere hkind, if_neg hkind]
    cases given <;> rfl

theorem Follows.congr {d : Client} (h : c.Follows given) (hsettings : d.settings = c.settings)
    (hkind : d.kind = c.kind) : d.Follows given where
  stored := by rw [hsettings, hkind]; exact h.stored
  elsewhere := by rw [hsettings, hkind]; exact h.elsewhere
  memory := by rw [hsettings, hkind]; exact h.memory
  usual := by rw [hsettings, hkind]; exact h.usual

theorem kind_memory (s : Settings) : (memory s).kind = "in_memory" := rfl

theorem kind_ofOpened (path : Path) (user : Value) (opened : Store.Directory.Opened) :
    (ofOpened s path user opened).kind = "local" := rfl

theorem follows_memory (hs : s.target = .memory) : (memory s).Follows s.options.settleDelay where
  stored _ := rfl
  elsewhere _ := by
    show s.target.isHomeserver = false
    rw [hs]
    rfl
  memory := ⟨fun _ => rfl, fun _ => hs⟩
  usual h := absurd h (by simp [kind_memory])

theorem follows_ofOpened (hs : s.target ≠ .memory) (helse : s.target.isHomeserver = false)
    (path : Path) (user : Value) (opened : Store.Directory.Opened) :
    (ofOpened s path user opened).Follows s.options.settleDelay where
  stored _ := rfl
  elsewhere _ := helse
  memory := ⟨fun h => absurd h hs, fun h => absurd h (by simp [kind_ofOpened])⟩
  usual h := absurd h (by simp [kind_ofOpened])

theorem follows_homeserver {url : String} {token : Value} (hc : homeserver s url token = .ok c)
    (hs : s.target ≠ .memory) (hdelay : s.delay = given.getD Settings.usualDelay) :
    c.Follows given := by
  obtain ⟨account, -, hc⟩ := exists_of_bind_eq_ok hc
  obtain rfl := Except.ok.inj hc
  have hkind : (⟨s, .homeserver account { homeServer := s.options.homeServer }, false⟩ :
      Client).kind = "remote" := rfl
  exact ⟨fun h => absurd hkind h, fun h => absurd hkind h,
    ⟨fun h => absurd h hs, fun h => absurd h (by simp [hkind])⟩, fun _ => hdelay⟩

theorem follows_openFinding {h h' : Host ν} {f : Finding} (hs : s.target ≠ .memory)
    (helse : s.target.isHomeserver = false)
    (ho : (openFinding s f).outcome h = (.ok c, h')) : c.Follows s.options.settleDelay := by
  unfold openFinding at ho
  split_ifs at ho with hremote hnull
  · cases ho
  · -- the delay of a homeserver that was discovered is patched into the settings
    obtain ⟨url, h₁, -, ho⟩ := exists_of_outcome_bind ho
    exact follows_homeserver (Prod.mk.inj ho).1 hs rfl
  · rcases hp : f.path with _ | path <;> rw [hp] at ho
    · cases ho
    · obtain ⟨opened, h₁, -, ho⟩ := exists_of_outcome_bind ho
      obtain rfl := Except.ok.inj (Prod.mk.inj ho).1
      exact follows_ofOpened hs helse _ _ _

theorem follows_ofSettings {h h' : Host ν} (ho : (ofSettings s).outcome h = (.ok c, h')) :
    c.Follows s.options.settleDelay := by
  unfold ofSettings at ho
  rcases ht : s.target with _ | path | _ | url | _ <;> rw [ht] at ho
  · obtain rfl := Except.ok.inj (Prod.mk.inj ho).1
    exact follows_memory ht
  · obtain ⟨opened, h₁, -, ho⟩ := exists_of_outcome_bind ho
    obtain rfl := Except.ok.inj (Prod.mk.inj ho).1
    exact follows_ofOpened (by simp [ht]) (by rw [ht]; rfl) _ _ _
  · obtain ⟨f, h₁, -, ho⟩ := exists_of_outcome_bind ho
    exact follows_openFinding (by simp [ht]) (by rw [ht]; rfl) ho
  · refine follows_homeserver (Prod.mk.inj ho).1 (by simp [ht]) ?_
    rw [Settings.delay, ht]
    cases s.options.settleDelay <;> rfl
  · obtain ⟨f, h₁, -, ho⟩ := exists_of_outcome_bind ho
    exact follows_openFinding (by simp [ht]) (by rw [ht]; rfl) ho

/-! ### The ways of opening -/

theorem settleDelay_of_settings {env : Environment} {cwd : Path} {o : Options}
    (hs : Settings.ofOptions env cwd o = .ok s) : s.options.settleDelay = o.settleDelay := by
  rw [(Settings.ofOptions_eq_ok hs).1]
  simp only [Options.withEnvironment]
  split_ifs <;> rfl

theorem follows_ofOptions {h h' : Host ν} {o : Options}
    (ho : (ofOptions o).outcome h = (.ok c, h')) : c.Follows o.settleDelay := by
  rw [outcome_ofOptions] at ho
  rcases hs : Settings.ofOptions h.environment h.directory o with e | s <;> rw [hs] at ho
  · cases ho
  · rw [← settleDelay_of_settings hs]
    exact follows_ofSettings ho

/-- Options with a path lead to a store in a directory. -/
theorem target_of_path {env : Environment} {cwd : Path} {o : Options}
    (hs : Settings.ofOptions env cwd o = .ok s) (hmemory : o.inMemory = false)
    (hpath : Options.isGiven o.path = true) : ∃ p, s.target = .directory p := by
  have he : o.isExplicit = true := by simp [Options.isExplicit, Options.namesLocal, hpath]
  obtain ⟨hoptions, -, ht⟩ := Settings.ofOptions_eq_ok hs
  rw [hoptions, Options.target_withEnvironment he] at ht
  simp only [Options.target, hmemory, hpath, Bool.false_eq_true, if_false, if_true] at ht
  rcases hp : Options.pathOf o.path >>= cwd.resolved with e | p <;> rw [hp] at ht
  · cases ht
  · exact ⟨p, (Except.ok.inj ht).symm⟩

/-- A client whose store was made has the settings of the path of the store. -/
theorem eq_ofOpened_of_create {h h' : Host ν} {path : Option Path} {homeServer : Value}
    {ignore : Bool} (ho : (create path homeServer ignore).outcome h = (.ok c, h')) :
    ∃ (g : Host ν) (p : Path) (s : Settings) (opened : Store.Directory.Opened),
      Settings.ofOptions g.environment g.directory { path := .text p.toText } = .ok s ∧
        c = ofOpened s p .null opened := by
  unfold create at ho
  rcases path with _ | path
  all_goals
    obtain ⟨p, h₁, -, ho⟩ := exists_of_outcome_bind ho
    obtain ⟨opened, h₂, -, ho⟩ := exists_of_outcome_bind ho
    cases ignore
    · obtain ⟨s, h₃, hs, ho⟩ := exists_of_outcome_bind ho
      exact ⟨h₂, p, s, opened, (Prod.mk.inj hs).1, (Except.ok.inj (Prod.mk.inj ho).1).symm⟩
    · obtain ⟨b, h₃, -, ho⟩ := exists_of_outcome_bind ho
      obtain ⟨s, h₄, hs, ho⟩ := exists_of_outcome_bind ho
      exact ⟨h₃, p, s, opened, (Prod.mk.inj hs).1, (Except.ok.inj (Prod.mk.inj ho).1).symm⟩

theorem follows_create {h h' : Host ν} {path : Option Path} {homeServer : Value} {ignore : Bool}
    (ho : (create path homeServer ignore).outcome h = (.ok c, h')) : c.Follows none := by
  obtain ⟨g, p, s, opened, hs, rfl⟩ := eq_ofOpened_of_create ho
  obtain ⟨q, ht⟩ := target_of_path hs rfl rfl
  have hfollows := follows_ofOpened (s := s) (by simp [ht]) (by rw [ht]; rfl) p .null opened
  rwa [settleDelay_of_settings hs] at hfollows

theorem follows_ofSource {h h' : Host ν} {source : Source}
    (ho : (ofSource source user).outcome h = (.ok c, h')) : c.Follows none := by
  unfold ofSource at ho
  split_ifs at ho with hremote hnull
  · cases ho
  · exact follows_ofOptions (o := Options.forHomeserver source.url source.token) ho
  · have hfollows := follows_ofOptions ho
    have hnone : (Options.forLocal source.path (orElse user source.user) false).settleDelay =
        none := by
      unfold Options.forLocal
      split_ifs <;> rfl
    rwa [hnone] at hfollows

theorem target_of_inMemory {env : Environment} {cwd : Path} {o : Options}
    (hs : Settings.ofOptions env cwd o = .ok s) (hmemory : o.inMemory = true) :
    s.target = .memory := by
  have he : o.isExplicit = true := by simp [Options.isExplicit, Options.namesLocal, hmemory]
  obtain ⟨hoptions, -, ht⟩ := Settings.ofOptions_eq_ok hs
  rw [hoptions, Options.target_withEnvironment he, Options.target, if_pos hmemory] at ht
  exact (Except.ok.inj ht).symm

theorem follows_derived (hc : v.client.Follows given) (hs : derivedSettings user v = .ok s) :
    (v.client.derived s user).Follows given := by
  have hremote := kind_of_derivedSettings hs
  have hdelay := hc.stored hremote
  have hmemory := hc.memory
  obtain ⟨h, settings, backend, isDerived⟩ := v
  rcases backend with ⟨account, shelf, pending⟩ | ⟨account, known⟩
  · have hgiven : s.options.settleDelay = given := (settleDelay_of_settings hs).trans hdelay
    rcases shelf with saved | ⟨path, file⟩
    · have ht : s.target = .memory := target_of_inMemory hs (beq_iff_eq.mpr (hmemory.mpr rfl))
      exact ⟨fun _ => hgiven, fun _ => ht ▸ rfl, ⟨fun _ => rfl, fun _ => ht⟩,
        fun h => absurd h hremote⟩
    · have hlocal : "local" ≠ "in_memory" := by decide
      have hother : (settings.target == .memory) = false :=
        beq_eq_false_iff_ne.mpr fun h => hlocal (hmemory.mp h)
      obtain ⟨q, ht⟩ := target_of_path hs hother rfl
      have hne : s.target ≠ .memory := by simp [ht]
      exact ⟨fun _ => hgiven, fun _ => ht ▸ rfl,
        ⟨fun h => absurd h hne, fun h => absurd h hlocal⟩, fun h => absurd h hremote⟩
  · cases hs

theorem IsOpened.follows (hc : c.IsOpened given) : c.Follows given := by
  induction hc with
  | ofOptions ho => exact follows_ofOptions ho
  | created ho => exact follows_create ho
  | ofSource ho => exact follows_ofSource ho
  | derived _ hs ih => exact follows_derived ih hs
  | continued _ hv ih => exact ih.congr hv.settings hv.kind

/-! ### What is waited for -/

/-- Act as another account of the same store, and from there as another one, and so on. -/
def actingAs {α : Type} (users : List Value) (a : Action (Visit ν) α) : Action (Visit ν) α :=
  users.foldr asUser a

theorem IsOpened.delay_derived (hc : v.client.IsOpened given)
    (hs : derivedSettings user v = .ok s) :
    (v.client.derived s user).settings.delay = v.client.settings.delay := by
  rw [hc.follows.delay_eq, (follows_derived hc.follows hs).delay_eq, kind_derived]

/-- **An operation as another account waits as long as one of the client itself.** -/
theorem continues_actingAs (w : Web.Homeserver ν) (op : Operation) (users : List Value)
    (hc : v.client.IsOpened given) :
    v.Continues ((actingAs users (perform w op)).outcome v).2
      (waitsAfter op ((actingAs users (perform w op)).outcome v).1 v.client.settings.delay) := by
  induction users generalizing v with
  | nil => exact continues_perform w op v
  | cons user users ih =>
    have hstep := outcome_asUser user (actingAs users (perform w op)) v
    rw [show actingAs (user :: users) (perform w op) =
      asUser user (actingAs users (perform w op)) from rfl, hstep]
    rcases hs : derivedSettings user v with e | s
    · simpa [waitsAfter, Except.isOk, Except.toBool] using Visit.Continues.refl v
    · have hgoes := ih (v := { v with client := v.client.derived s user }) (.derived hc hs)
      have hkind := hgoes.kind.trans (kind_derived v.client s user)
      refine ⟨settings_restored _ _, kind_restored hkind, ?_⟩
      rw [← hc.delay_derived hs]
      exact hgoes.waits

end Client

/-- **How long every client waits, and when.** It waits for the seconds that were given, or else
three seconds on a homeserver and not at all on a store. An operation, as the account of the client
or as any other one, waits exactly once for that time, if it is one that changes something and has
succeeded; nothing else waits. After each of these the same holds of the client again. -/
theorem settle_delay_law {given : Option Decimal} {c : Client} (hc : c.IsOpened given) :
    c.settings.delay = given.getD (if c.kind = "remote" then .ofNat 3 else .zero) ∧
    (∀ (w : Web.Homeserver ν) (h : Host ν) (users : List Value) (op : Operation),
      let r := (Client.actingAs users (Client.perform w op)).outcome ⟨h, c⟩
      r.2.host.waits = h.waits ++
        (if op.changes && r.1.isOk && c.settings.delay.isPositive then [c.settings.delay]
          else []) ∧
      r.2.client.IsOpened given) ∧
    ∀ (h : Host ν) (handle : String) (name : Option String),
      Visit.Continues ⟨h, c⟩ ((Client.register handle name).outcome ⟨h, c⟩).2 [] ∧
      Visit.Continues ⟨h, c⟩ (Client.users.outcome ⟨h, c⟩).2 [] ∧
      Visit.Continues ⟨h, c⟩ (Client.close.outcome ⟨h, c⟩).2 [] := by
  refine ⟨hc.follows.delay_eq, fun w h users op => ?_, fun h handle name => ?_⟩
  · have hv := Client.continues_actingAs (v := ⟨h, c⟩) w op users hc
    exact ⟨hv.waits, .continued (v := ⟨h, c⟩) hc hv⟩
  · exact ⟨Client.continues_onStore _ _ _, Client.continues_onStore _ _ _,
      Client.continues_close _⟩

/-- A host with nothing on it, from which an empty homeserver can be reached. -/
def quietHost : Host Web.ServerScript := { server := {} }

/-- A client on a store in memory that waits for half a second. -/
def halfClient : Client :=
  .memory ⟨{ inMemory := true, settleDelay := some ⟨false, 5, -1⟩ }, .memory⟩

/-- The store of `halfClient` after an account was registered. -/
def halfVisit : Visit Web.ServerScript :=
  ((Client.register "alice" none).outcome ⟨quietHost, halfClient⟩).2

/-- Somebody who acts on the store, and from there on again as the account that was registered,
blocks it and waits for half a second. -/
theorem settle_delay_law_half :
    (Client.ofOptions halfClient.settings.options).outcome quietHost = (.ok halfClient, quietHost) ∧
      halfVisit.client.IsOpened (some ⟨false, 5, -1⟩) ∧
      let r := (Client.actingAs [.text "@bob:localhost", .text "@alice:localhost"]
        (Client.perform Web.scripted (.block "alice"))).outcome halfVisit
      r.1 = .ok .done ∧ r.2.host.waits = [⟨false, 5, -1⟩] := by
  have hopens : (Client.ofOptions halfClient.settings.options).outcome quietHost =
      (.ok halfClient, quietHost) := rfl
  have hopened : halfClient.IsOpened (some ⟨false, 5, -1⟩) := .ofOptions hopens
  have hvisit : Visit.Continues ⟨quietHost, halfClient⟩ halfVisit [] :=
    ((settle_delay_law hopened).2.2 quietHost "alice" none).1
  have hnow : halfVisit.client.IsOpened (some ⟨false, 5, -1⟩) :=
    .continued (v := ⟨quietHost, halfClient⟩) hopened hvisit
  obtain ⟨hdelay, hperform, -⟩ := settle_delay_law (ν := Web.ServerScript) hnow
  have hdone : ((Client.actingAs [.text "@bob:localhost", .text "@alice:localhost"]
      (Client.perform Web.scripted (.block "alice"))).outcome halfVisit).1 = .ok .done := by
    decide +kernel
  refine ⟨hopens, hnow, hdone, ?_⟩
  have hwaits := (hperform Web.scripted halfVisit.host
    [.text "@bob:localhost", .text "@alice:localhost"] (.block "alice")).1
  rw [hwaits, hvisit.waits, hdelay, hdone]
  rfl

end PairChat
