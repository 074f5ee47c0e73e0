import McpSqlServer.App

namespace McpSqlServer.App

open Library Library.Text Library.Python
open ConnectionManager (ManagerCall runCalls Tended noneLent connUsage held)
open Pool (Conn)

variable {P : Packages} {S : ConnectionManager.Site}

section Start

theorem recordClient_triple {log : List ClientEvent} (e : ClientEvent) {E : Exc → List ClientEvent → Prop} :
    Triple (fun l ↦ l = log) (recordClient e) (fun _ l ↦ l = log ++ [e]) E := Triple.modify (fun _ h ↦ h ▸ rfl)

theorem aclose_triple {log : List ClientEvent} : Triple (fun l ↦ l = log) (aclose P) (fun _ l ↦ l = log ++ [.closed])
    (fun _ l ↦ l = log ++ [.closed]) := by
  refine Triple.bind (recordClient_triple .closed) (fun _ ↦ ?_)
  exact Triple.bind (Triple.read (fun _ h ↦ h)) (fun _ ↦ Triple.ofExcept (fun _ _ _ h ↦ h) (fun _ _ _ h ↦ h))

variable [UnicodeData] {F : Loader} {environ : Dict Str} {cfg : AppConfig}

/-- The client that the configuration asks for can be made. -/
def OpensClient (P : Packages) (auth : AuthConfig.Complete) : Prop :=
  P.asyncClient auth.poolTimeoutSeconds auth.poolMaxConnections
    (min auth.poolMaxKeepaliveConnections auth.poolMaxConnections) = .ok ()

/-- Behind its client the start fails with an exception that its `try` block does not catch, or
when the MCP application is made and mounted. -/
def FailsLate (P : Packages) (environ : Dict Str) (cfg : AppConfig) : Prop :=
  (∃ e, construct P environ cfg = .error e ∧ e.caught = false) ∨
    (∃ state, construct P environ cfg = .ok state) ∧ ((∃ e, P.httpApp = .error e) ∨ ∃ e, P.assemble = .error e)

def Leaks (P : Packages) (F : Loader) (environ : Dict Str) : Prop :=
  ∃ cfg, loadedConfig F environ = .ok cfg ∧ OpensClient P cfg.auth ∧ FailsLate P environ cfg

theorem leaks_iff (hcfg : loadedConfig F environ = .ok cfg) :
    Leaks P F environ ↔ OpensClient P cfg.auth ∧ FailsLate P environ cfg := by
  constructor
  · rintro ⟨cfg', hcfg', h⟩
    obtain rfl := Except.ok.inj (hcfg.symm.trans hcfg')
    exact h
  · exact fun h ↦ ⟨cfg, hcfg, h⟩

def Failed (P : Packages) (F : Loader) (environ : Dict Str) (log : List ClientEvent) : Prop :=
  (Leaks P F environ ∧ log = [.opened]) ∨ (¬ Leaks P F environ ∧ (log = [] ∨ log = [.opened, .closed]))

theorem openClient_triple (hcfg : loadedConfig F environ = .ok cfg) : Triple (fun log ↦ log = [])
    (openClient P cfg.auth) (fun _ log ↦ OpensClient P cfg.auth ∧ log = [.opened])
    (fun _ ↦ Failed P F environ) := by
  refine Triple.bind (R := fun _ log ↦ OpensClient P cfg.auth ∧ log = []) (Triple.ofExcept ?_ ?_) (fun _ ↦ ?_)
  · exact fun _ _ h hlog ↦ ⟨h, hlog⟩
  · refine fun e log h hlog ↦ .inr ⟨fun hleaks ↦ ?_, .inl hlog⟩
    have hopens := ((leaks_iff hcfg).mp hleaks).1
    rw [OpensClient, h] at hopens
    cases hopens
  · exact Triple.extract (fun hopens ↦ (recordClient_triple .opened).mono (fun _ h ↦ h) (fun _ _ h ↦ ⟨hopens, h⟩)
      (fun _ _ h ↦ h))

theorem construct_triple (hcfg : loadedConfig F environ = .ok cfg) (hopens : OpensClient P cfg.auth) :
    Triple (fun log ↦ log = [.opened]) (Act.catching (Act.ofExcept (construct P environ cfg)) (fun e ↦
      if e.caught then do
        aclose P
        Act.raise e
      else Act.raise e)) (fun state log ↦ construct P environ cfg = .ok state ∧ log = [.opened])
      (fun _ ↦ Failed P F environ) := by
  refine Triple.catching (F := fun e log ↦ construct P environ cfg = .error e ∧ log = [.opened])
    (Triple.ofExcept (fun _ _ h hlog ↦ ⟨h, hlog⟩) (fun _ _ h hlog ↦ ⟨h, hlog⟩)) (fun e ↦ Triple.extract (fun he ↦ ?_))
  split
  · rename_i hcaught
    have hkept : ¬ Leaks P F environ := by
      rw [leaks_iff hcfg]
      rintro ⟨-, ⟨e', he', huncaught⟩ | ⟨⟨state, hstate⟩, -⟩⟩
      · obtain rfl := Except.error.inj (he.symm.trans he')
        exact Bool.false_ne_true (huncaught.symm.trans hcaught)
      · rw [he] at hstate
        cases hstate
    exact Triple.bind (aclose_triple.mono (fun _ h ↦ h) (fun _ _ h ↦ h) (fun _ _ h ↦ .inr ⟨hkept, .inr h⟩))
      (fun _ ↦ Triple.raise (fun _ h ↦ .inr ⟨hkept, .inr h⟩))
  · rename_i huncaught
    have hleaks : Leaks P F environ :=
      (leaks_iff hcfg).mpr ⟨hopens, .inl ⟨e, he, Bool.eq_false_of_not_eq_true huncaught⟩⟩
    exact Triple.raise (fun _ h ↦ .inl ⟨hleaks, h⟩)

theorem buildFastapiApp_triple : Triple (fun log ↦ log = []) (buildFastapiApp P F environ)
    (fun _ log ↦ ¬ Leaks P F environ ∧ log = [.opened]) (fun _ ↦ Failed P F environ) := by
  refine Triple.bind (R := fun cfg log ↦ loadedConfig F environ = .ok cfg ∧ log = []) (Triple.ofExcept ?_ ?_)
    (fun cfg ↦ Triple.extract (fun hcfg ↦ ?_))
  · exact fun _ _ h hlog ↦ ⟨h, hlog⟩
  · refine fun e log h hlog ↦ .inr ⟨?_, .inl hlog⟩
    rintro ⟨cfg, hcfg, -⟩
    rw [h] at hcfg
    cases hcfg
  refine Triple.bind (openClient_triple hcfg) (fun _ ↦ Triple.extract (fun hopens ↦ ?_))
  refine Triple.bind (construct_triple hcfg hopens) (fun state ↦ Triple.extract (fun hstate ↦ ?_))
  have hlate (h : (∃ e, P.httpApp = .error e) ∨ ∃ e, P.assemble = .error e) : Leaks P F environ :=
    (leaks_iff hcfg).mpr ⟨hopens, .inr ⟨⟨state, hstate⟩, h⟩⟩
  refine Triple.bind (R := fun _ log ↦ P.httpApp = .ok () ∧ log = [.opened]) (Triple.ofExcept ?_ ?_)
    (fun _ ↦ Triple.extract (fun hhttp ↦ ?_))
  · exact fun _ _ h hlog ↦ ⟨h, hlog⟩
  · exact fun e log h hlog ↦ .inl ⟨hlate (.inl ⟨e, h⟩), hlog⟩
  refine Triple.bind (R := fun _ log ↦ P.assemble = .ok () ∧ log = [.opened]) (Triple.ofExcept ?_ ?_)
    (fun _ ↦ Triple.extract (fun hassemble ↦ Triple.pure (fun log hlog ↦ ⟨?_, hlog⟩)))
  · exact fun _ _ h hlog ↦ ⟨h, hlog⟩
  · exact fun e log h hlog ↦ .inl ⟨hlate (.inr ⟨e, h⟩), hlog⟩
  rw [leaks_iff hcfg]
  rintro ⟨-, ⟨e, he, -⟩ | ⟨-, ⟨e, he⟩ | ⟨e, he⟩⟩⟩
  · rw [hstate] at he
    cases he
  · rw [hhttp] at he
    cases he
  · rw [hassemble] at he
    cases he

end Start

section Parts

variable {σ τ ε α : Type} {Q : α → σ → Prop} {E : ε → σ → Prop} {P : σ → Prop} {m : Act σ ε α}

theorem onFst_triple (h : Triple P m Q E) (K : τ → Prop) : Triple (fun s : σ × τ ↦ P s.1 ∧ K s.2) (Act.onFst m)
    (fun a s ↦ Q a s.1 ∧ K s.2) (fun e s ↦ E e s.1 ∧ K s.2) := by
  rintro ⟨s, t⟩ ⟨hs, ht⟩
  have hend := h s hs
  rcases hm : m s with ⟨r, s'⟩
  rw [Act.onFst_of hm]
  rw [hm] at hend
  cases r with
  | ok a => exact ⟨hend, ht⟩
  | error e => exact ⟨hend, ht⟩

theorem onSnd_triple (h : Triple P m Q E) (K : τ → Prop) : Triple (fun s : τ × σ ↦ K s.1 ∧ P s.2) (Act.onSnd m)
    (fun a s ↦ K s.1 ∧ Q a s.2) (fun e s ↦ K s.1 ∧ E e s.2) := by
  rintro ⟨t, s⟩ ⟨ht, hs⟩
  have hend := h s hs
  rcases hm : m s with ⟨r, s'⟩
  rw [Act.onSnd_of hm]
  rw [hm] at hend
  cases r with
  | ok a => exact ⟨ht, hend⟩
  | error e => exact ⟨ht, hend⟩

end Parts

section Life

def Running (S : ConnectionManager.Site) (w : ConnectionManager.World × List ClientEvent) : Prop :=
  Tended S noneLent 0 w.1 ∧ w.2 = [.opened]

def Ended (S : ConnectionManager.Site) (w : ConnectionManager.World × List ClientEvent) : Prop :=
  (Tended S noneLent 0 w.1 ∧ ∀ i, held (w.1.pools i) = 0) ∧ w.2 = [.opened, .closed]

theorem within_invariant {I : ConnectionManager.World × List ClientEvent → Prop} {body : LifeM Unit}
    (hbody : Invariant I body) (parent : Option ParentLifespan) : Invariant I (within body parent) := by
  cases parent with
  | none => exact hbody
  | some parent =>
    have hfailure : Invariant I (Act.catching (do
        body
        pure none) (fun e ↦ pure (some e))) := .catching (.bind hbody (fun _ ↦ .pure none)) (fun e ↦ .pure (some e))
    refine .bind (.ofExcept _) (fun _ ↦ .bind hfailure (fun failure ↦ .bind (.ofExcept _) (fun suppressed ↦ ?_)))
    cases failure with
    | none => exact Invariant.pure ()
    | some e =>
      dsimp only
      split
      · exact Invariant.pure ()
      · exact Invariant.raise e

theorem shutDown_triple : Triple (Running S) (shutDown S P) (fun _ ↦ Ended S) (fun _ ↦ Ended S) := by
  have hpools : Triple (Running S) (Act.onFst (ConnectionManager.closeAllPools S))
      (fun _ w ↦ (Tended S noneLent 0 w.1 ∧ ∀ i, held (w.1.pools i) = 0) ∧ w.2 = [.opened]) (fun _ _ ↦ False) :=
    (onFst_triple (ConnectionManager.closeAllPools_tended (E := fun _ _ ↦ False))
      (fun log : List ClientEvent ↦ log = [.opened])).mono (fun _ h ↦ h) (fun _ _ h ↦ h) (fun _ _ h ↦ h.1)
  have hclient : Triple (fun w : ConnectionManager.World × List ClientEvent ↦
      (Tended S noneLent 0 w.1 ∧ ∀ i, held (w.1.pools i) = 0) ∧ w.2 = [.opened]) (Act.onSnd (aclose P))
      (fun _ ↦ Ended S) (fun _ ↦ Ended S) :=
    onSnd_triple aclose_triple (fun w ↦ Tended S noneLent 0 w ∧ ∀ i, held (w.pools i) = 0)
  refine Triple.bind (R := fun _ w ↦ (Tended S noneLent 0 w.1 ∧ ∀ i, held (w.1.pools i) = 0) ∧ w.2 = [.opened])
    (Triple.catching (Triple.bind hpools (fun _ ↦ Triple.pure (fun _ h ↦ h))) (fun _ _ h ↦ h.elim))
    (fun excFromPools ↦ ?_)
  refine Triple.bind (R := fun _ ↦ Ended S) (Triple.catching hclient (fun e ↦ ?_)) (fun _ ↦ ?_)
  · split
    · exact Triple.pure (fun _ h ↦ h)
    · exact Triple.raise (fun _ h ↦ h)
  · cases excFromPools with
    | none => exact Triple.pure (fun _ h ↦ h)
    | some e => exact Triple.raise (fun _ h ↦ h)

variable [UnicodeData]

theorem serve_invariant (calls : List ManagerCall) (ending : Except Exc Unit) :
    Invariant (Running S) (serve S calls ending) := by
  have hcalls : Invariant (ε := Exc) (Tended S noneLent 0) (Act.modify (runCalls S calls)) :=
    Invariant.modify (fun _ h ↦ ConnectionManager.runCalls_tended calls h)
  exact .bind (onFst_triple hcalls (fun log : List ClientEvent ↦ log = [.opened])) (fun _ ↦ .ofExcept _)

theorem appLifespan_triple (parent : Option ParentLifespan) (calls : List ManagerCall) (ending : Except Exc Unit) :
    Triple (Running S) (appLifespan S P parent calls ending) (fun _ ↦ Ended S) (fun _ ↦ Ended S) :=
  Triple.ensuring (within_invariant (serve_invariant calls ending) parent) (fun _ ↦ shutDown_triple)
    (fun _ ↦ shutDown_triple)

/-- What is left behind by a server: every connection was closed once and not used later, and
so was the client, unless the start leaves it open. -/
structure Released (P : Packages) (F : Loader) (environ : Dict Str)
    (w : ConnectionManager.World × List ClientEvent) : Prop where
  accounted : w.1.Accounted
  closed : ∀ c < w.1.next, (connUsage.ended w.1.log).count c = 1
  leaks : w.2 = [.opened] ↔ Leaks P F environ
  client : w.2 = [] ∨ w.2 = [.opened, .closed] ∨ w.2 = [.opened]

variable {F : Loader} {environ : Dict Str}

theorem Ended.released {w : ConnectionManager.World × List ClientEvent} (h : Ended S w) (hkept : ¬ Leaks P F environ) :
    Released P F environ w where
  accounted := h.1.1.accounted
  closed c hc := by
    rcases h.1.1.census.settled hc with ⟨hone, -⟩ | ⟨-, i, hi, -⟩
    · exact Multiset.coe_count c _ ▸ hone
    · rw [h.1.2 i] at hi
      exact absurd hi (Multiset.notMem_zero c)
  leaks := by
    rw [h.2]
    exact iff_of_false (by decide) hkept
  client := .inr (.inl h.2)

theorem Failed.released {log : List ClientEvent} (h : Failed P F environ log) : Released P F environ ({}, log) where
  accounted := ⟨fun _ hc ↦ absurd hc (Nat.not_lt_zero _), List.Pairwise.nil, fun _ ↦ rfl⟩
  closed c hc := absurd hc (Nat.not_lt_zero c)
  leaks := by
    rcases h with ⟨hleaks, rfl⟩ | ⟨hkept, rfl | rfl⟩
    · exact iff_of_true rfl hleaks
    · exact iff_of_false (by decide) hkept
    · exact iff_of_false (by decide) hkept
  client := by
    rcases h with ⟨-, rfl⟩ | ⟨-, rfl | rfl⟩
    · exact .inr (.inr rfl)
    · exact .inl rfl
    · exact .inr (.inl rfl)

/-- However a server starts, serves and ends, it releases what it has opened, when no call is in flight at its end. -/
theorem runServer_released (S : ConnectionManager.Site) (P : Packages) (F : Loader) (environ : Dict Str)
    (parent : Option ParentLifespan) (calls : List ManagerCall) (ending : Except Exc Unit) :
    Released P F environ (runServer S P F environ parent calls ending ({}, [])).2 := by
  have hstart : Triple (fun w : ConnectionManager.World × List ClientEvent ↦ w.1 = {} ∧ w.2 = [])
      (Act.onSnd (buildFastapiApp P F environ)) (fun _ w ↦ w.1 = {} ∧ ¬ Leaks P F environ ∧ w.2 = [.opened])
      (fun _ w ↦ w.1 = {} ∧ Failed P F environ w.2) :=
    onSnd_triple buildFastapiApp_triple (fun w : ConnectionManager.World ↦ w = {})
  have hrun : Triple (fun w ↦ w.1 = {} ∧ w.2 = []) (runServer S P F environ parent calls ending)
      (fun _ ↦ Released P F environ) (fun _ ↦ Released P F environ) := by
    refine Triple.bind (hstart.mono (fun _ h ↦ h) (fun _ _ h ↦ h) (fun _ w h ↦ ?_)) (fun state ↦ ?_)
    · obtain ⟨world, log⟩ := w
      obtain ⟨rfl, hfailed⟩ := h
      exact hfailed.released
    · rintro ⟨world, log⟩ ⟨rfl, hkept, rfl⟩
      exact (appLifespan_triple parent calls ending _ ⟨Tended.initial _, rfl⟩).mono (fun _ _ h ↦ h.released hkept)
        (fun _ _ h ↦ h.released hkept)
  exact (hrun ({}, []) ⟨rfl, rfl⟩).snd (fun _ _ h ↦ h) (fun _ _ h ↦ h)

end Life

end McpSqlServer.App
