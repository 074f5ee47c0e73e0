import McpSqlServer.Tools.Dashboards
import McpSqlServer.Tools.GateOrder
import McpSqlServer.Tools.PageRefinement

namespace McpSqlServer

open Library Library.Text Library.Python DashboardPayloads

structure RefreshQuery where
  instanceId : Str
  databaseName : Str
  query : CatalogQuery
  maxRows : ℤ

/-- What surrounds one refresh: the readings of the clock by the page store, the policy of the
write guard, and what the instance answers. -/
structure Refresh where
  requestId : Str
  policy : RuntimePolicy
  readAt : ℚ
  registeredAt : ℚ
  generatedAtUtc : Str
  execute : RefreshQuery → Except Exc (List Row)

/-- The page store, and the queries that a refresh has asked. -/
abbrev RefreshM (α : Type) := Act (Dict Page × List RefreshQuery) Exc α

def RefreshTarget.ask (target : RefreshTarget) (query : CatalogQuery) : RefreshQuery :=
  ⟨target.instanceId, target.databaseName, query, 200⟩

def lockQueries : List CatalogQuery := [.lockChain 200, .tranLocks 200, .waitingTasks 200, .blockingChain 200]

def RefreshTarget.queries (target : RefreshTarget) : List RefreshQuery :=
  target.ask (.activeSessions 200) :: if target.includeLocks then lockQueries.map target.ask else []

namespace Refresh

variable (a : Refresh)

def executeCatalogQuery (q : RefreshQuery) : RefreshM (List Row) := do
  Act.modify (fun s ↦ (s.1, s.2 ++ [q]))
  Act.ofExcept (a.execute q)

def lockQuery (target : RefreshTarget) (query : CatalogQuery) : RefreshM (List Row) :=
  if target.includeLocks then a.executeCatalogQuery (target.ask query) else pure []

end Refresh

variable [UnicodeData] (E : PageStore)

/-- `_refresh_dashboard_html` over the page store, with the page that it builds. -/
def PageStore.refreshDashboardHtml (a : Refresh) : RefreshM Str := do
  let metadata ← Act.onFst (E.getDashboardPageMetadata a.readAt (.str a.requestId))
  let target ← Act.ofExcept (refreshTarget metadata)
  Act.ofExcept (guardVerdict a.policy refreshGuard)
  let sessions ← a.executeCatalogQuery (target.ask (.activeSessions 200))
  let lockRows ← a.lockQuery target (.lockChain 200)
  let tranLockRows ← a.lockQuery target (.tranLocks 200)
  let waitingRows ← a.lockQuery target (.waitingTasks 200)
  let blockingChainRows ← a.lockQuery target (.blockingChain 200)
  let payload ← Act.ofExcept (buildSessionsDashboardFull E.toBuiltins
    { instanceNumber := target.instanceNumber, databaseName := target.databaseName, sessions := sessions,
      lockChains := lockRows, tranLocks := tranLockRows, waitingTasks := waitingRows,
      headBlockers := refreshDashboardHeadBlockers lockRows, blockingChains := some blockingChainRows,
      refreshUrl := some (refreshUrl a.requestId) } a.generatedAtUtc)
  let _ ← Act.onFst (E.registerDashboardPageWithMetadata a.registeredAt (.str a.requestId) (.str payload.html)
    (.int 900) (some target.metadata))
  pure payload.html

structure RefreshOutcome where
  refresh : Refresh
  result : Except Exc Str
  asked : List RefreshQuery

namespace PageStore

def outcome (a : Refresh) (pages : Dict Page) : RefreshOutcome :=
  ⟨a, (E.refreshDashboardHtml a (pages, [])).1, (E.refreshDashboardHtml a (pages, [])).2.2⟩

def afterRefresh (a : Refresh) (pages : Dict Page) : Dict Page := (E.refreshDashboardHtml a (pages, [])).2.1

def afterRefreshes (attempts : List Refresh) (pages : Dict Page) : Dict Page :=
  attempts.foldl (fun pages a ↦ E.afterRefresh a pages) pages

def outcomes : List Refresh → Dict Page → List RefreshOutcome
  | [], _ => []
  | a :: attempts, pages => E.outcome a pages :: outcomes attempts (E.afterRefresh a pages)

end PageStore

def RefreshOutcome.ReadBefore (o : RefreshOutcome) (now : ℚ) : Prop :=
  o.refresh.readAt ≤ now ∧ ∀ html, o.result = .ok html → o.refresh.registeredAt ≤ now

def RefreshOutcome.rebuilt (o : RefreshOutcome) (requestId : Str) (metadata : Option (Dict Value)) : Option Page :=
  if o.refresh.requestId = requestId then
    o.result.toOption.map (fun html ↦ ⟨html, o.refresh.registeredAt + 900, metadata⟩)
  else none

/-- The page with the html of the last refresh of an id that returned, and 900 seconds from its
registration to go; without one it is the original page. -/
def lastPage (requestId : Str) (original : Page) (outcomes : List RefreshOutcome) : Page :=
  ((outcomes.filterMap (fun o ↦ o.rebuilt requestId original.metadata)).getLast?).getD original

def LeavesPages (a : Refresh) (pages : Dict Page) : Prop :=
  ∀ e, (E.outcome a pages).result = .error e → ∀ requestId page, pages.lookup requestId = some page →
    a.readAt < page.expiresEpoch → (E.afterRefresh a pages).lookup requestId = some page

/-- Through refreshes of any ids a page keeps its metadata, has the html of its last refresh, and
lasts from that registration on; every refresh of it asks what the original metadata denote. -/
structure KeepsTarget (attempts : List Refresh) (pages : Dict Page) (requestId : Str) (original : Page) : Prop where
  found : ∀ page, (E.afterRefreshes attempts pages).lookup requestId = some page →
    page = lastPage requestId original (E.outcomes attempts pages)
  kept : ∀ now, (∀ o ∈ E.outcomes attempts pages, o.ReadBefore now) →
    now < (lastPage requestId original (E.outcomes attempts pages)).expiresEpoch →
      (E.afterRefreshes attempts pages).lookup requestId =
        some (lastPage requestId original (E.outcomes attempts pages))
  asked : ∀ o ∈ E.outcomes attempts pages, o.refresh.requestId = requestId →
    (o.asked = [] ∧ ∃ e, o.result = .error e) ∨ ∃ target, refreshTarget original.metadata = .ok target ∧
      o.asked <+: target.queries ∧ ∀ html, o.result = .ok html → o.asked = target.queries

variable {E} {a : Refresh} {pages : Dict Page}

section Queries

omit [UnicodeData]

variable {target : RefreshTarget} {k : ℕ} {F : Exc → Dict Page × List RefreshQuery → Prop}

theorem executeCatalogQuery_triple {q : RefreshQuery} (hq : target.queries[k]? = some q)
    (hF : ∀ e asked, asked <+: target.queries → F e (pages, asked)) :
    Triple (fun s ↦ s = (pages, target.queries.take k)) (a.executeCatalogQuery q)
      (fun _ s ↦ s = (pages, target.queries.take (k + 1))) F := by
  have htake : target.queries.take (k + 1) = target.queries.take k ++ [q] := by
    rw [List.take_add_one, hq]
    rfl
  refine .modify_bind (I := fun s ↦ s = (pages, target.queries.take (k + 1))) (fun s hs ↦ ?_) ?_
  · rw [hs, htake]
  · refine .ofExcept (fun _ _ _ hs ↦ hs) (fun e s _ hs ↦ ?_)
    rw [hs]
    exact hF e _ (List.take_prefix _ _)

theorem lockQuery_triple {query : CatalogQuery} (hq : lockQueries[k]? = some query)
    (hF : ∀ e asked, asked <+: target.queries → F e (pages, asked)) :
    Triple (fun s ↦ s = (pages, target.queries.take (k + 1))) (a.lockQuery target query)
      (fun _ s ↦ s = (pages, target.queries.take (k + 2))) F := by
  unfold Refresh.lockQuery
  split
  · rename_i hlocks
    refine executeCatalogQuery_triple ?_ hF
    rw [RefreshTarget.queries, if_pos hlocks, List.getElem?_cons_succ, List.getElem?_map, hq]
    rfl
  · rename_i hlocks
    refine .pure (fun s hs ↦ ?_)
    rw [hs, RefreshTarget.queries, if_neg hlocks, List.take_succ_cons, List.take_succ_cons, List.take_nil,
      List.take_nil]

end Queries

/-- What a refresh leaves when it raises: the store as it was or swept, and the first queries of
its target, if it came to them. -/
def Raises (a : Refresh) (pages left : Dict Page) (asked : List RefreshQuery) : Prop :=
  (left = pages ∨ left = cleanupExpired a.readAt pages) ∧
    (asked = [] ∨ ∃ page target, (cleanupExpired a.readAt pages).lookup a.requestId = some page ∧
      refreshTarget page.metadata = .ok target ∧ asked <+: target.queries)

def Returns (a : Refresh) (pages : Dict Page) (html : Str) (left : Dict Page) (asked : List RefreshQuery) : Prop :=
  ∃ page target, (cleanupExpired a.readAt pages).lookup a.requestId = some page ∧
    refreshTarget page.metadata = .ok target ∧ asked = target.queries ∧
    left = setItem a.requestId ⟨html, a.registeredAt + 900, page.metadata⟩
      (cleanupExpired a.registeredAt (cleanupExpired a.readAt pages))

theorem register_of_copied {now : ℚ} {requestId : Str} {metadata : Option (Dict Value)}
    (hid : PageStore.validateRequestId (.str requestId) = .ok requestId)
    (hcopy : E.copyMetadata metadata = .ok metadata) (html : Str) (pages : Dict Page) :
    (∃ e, E.registerDashboardPageWithMetadata now (.str requestId) (.str html) (.int 900) metadata pages =
      (.error e, pages)) ∨
    ∃ url, E.registerDashboardPageWithMetadata now (.str requestId) (.str html) (.int 900) metadata pages =
      (.ok url, setItem requestId ⟨html, now + 900, metadata⟩ (cleanupExpired now pages)) := by
  have httl : E.validateTtlSeconds (.int 900) = .ok 900 := rfl
  unfold PageStore.registerDashboardPageWithMetadata
  cases hh : PageStore.validateHtml (.str html) with
  | error e => exact .inl ⟨e, rfl⟩
  | ok text =>
    obtain rfl : html = text := Value.str.inj (PageStore.validateHtml_ok hh)
    rw [httl, hid, hcopy]
    exact .inr ⟨_, rfl⟩

theorem readMetadata_triple (hu : Dict.Unique pages) :
    Triple (fun s ↦ s = (pages, [])) (Act.onFst (E.getDashboardPageMetadata a.readAt (.str a.requestId)))
      (fun metadata s ↦ (metadata = ((cleanupExpired a.readAt pages).lookup a.requestId).bind Page.metadata ∧
        E.copyMetadata metadata = .ok metadata ∧ PageStore.validateRequestId (.str a.requestId) = .ok a.requestId) ∧
          s = (cleanupExpired a.readAt pages, [])) (fun _ s ↦ Raises a pages s.1 s.2) := by
  intro s hs
  rw [hs]
  cases hid : PageStore.validateRequestId (.str a.requestId) with
  | error e =>
    rw [Act.onFst_of (getDashboardPageMetadata_of_error hid)]
    exact ⟨.inl rfl, .inl rfl⟩
  | ok key =>
    obtain rfl : a.requestId = key := Value.str.inj (PageStore.validateRequestId_ok hid)
    rw [Act.onFst_of (getDashboardPageMetadata_of_ok hu hid)]
    cases hcopy : E.copyMetadata (((cleanupExpired a.readAt pages).lookup a.requestId).bind Page.metadata) with
    | error e => exact ⟨.inr rfl, .inl rfl⟩
    | ok copy =>
      obtain rfl := PageStore.copyMetadata_ok hcopy
      exact ⟨⟨rfl, hcopy, rfl⟩, rfl⟩

theorem refreshDashboardHtml_triple (hu : Dict.Unique pages) :
    Triple (fun s ↦ s = (pages, [])) (E.refreshDashboardHtml a) (fun html s ↦ Returns a pages html s.1 s.2)
      (fun _ s ↦ Raises a pages s.1 s.2) := by
  have hswept : Raises a pages (cleanupExpired a.readAt pages) [] := ⟨.inr rfl, .inl rfl⟩
  refine .bind (readMetadata_triple hu) (fun metadata ↦ .extract (fun hread ↦ ?_))
  obtain ⟨hmetadata, hcopy, hid⟩ := hread
  refine .bind (R := fun target s ↦ refreshTarget metadata = .ok target ∧ s = (cleanupExpired a.readAt pages, []))
    (.ofExcept (fun _ _ h hs ↦ ⟨h, hs⟩) (fun _ s _ hs ↦ ?_)) (fun target ↦ .extract (fun htarget ↦ ?_))
  · rw [hs]
    exact hswept
  obtain rfl := (refreshTarget_ok htarget).1
  obtain ⟨page, hpage, hpm⟩ := Option.bind_eq_some_iff.mp hmetadata.symm
  rw [← hpm] at htarget
  have hF : ∀ (e : Exc) asked, asked <+: target.queries →
      Raises a pages (cleanupExpired a.readAt pages) asked :=
    fun _ asked hasked ↦ ⟨.inr rfl, .inr ⟨page, target, hpage, htarget, hasked⟩⟩
  refine .bind (R := fun _ s ↦ s = (cleanupExpired a.readAt pages, target.queries.take 0))
    (.ofExcept (fun _ _ _ hs ↦ hs) (fun _ s _ hs ↦ ?_)) (fun _ ↦ ?_)
  · rw [hs]
    exact hswept
  refine .bind (executeCatalogQuery_triple rfl hF) (fun sessions ↦ ?_)
  refine .bind (lockQuery_triple (k := 0) rfl hF) (fun lockRows ↦ ?_)
  refine .bind (lockQuery_triple (k := 1) rfl hF) (fun tranLockRows ↦ ?_)
  refine .bind (lockQuery_triple (k := 2) rfl hF) (fun waitingRows ↦ ?_)
  refine .bind (lockQuery_triple (k := 3) rfl hF) (fun blockingChainRows ↦ ?_)
  have hall : target.queries.take 5 = target.queries := by
    rw [RefreshTarget.queries]
    cases target.includeLocks with
    | true => rfl
    | false => rfl
  refine .bind (R := fun _ s ↦ s = (cleanupExpired a.readAt pages, target.queries))
    (.ofExcept (fun _ _ _ hs ↦ hs.trans (congrArg (Prod.mk _) hall)) (fun e s _ hs ↦ ?_)) (fun payload s hs ↦ ?_)
  · rw [hs]
    exact hF e _ (List.take_prefix _ _)
  rw [hs]
  -- A failure up to here has not come to the store; the registration fails before it writes.
  rcases register_of_copied hid hcopy payload.html (cleanupExpired a.readAt pages) with ⟨e, he⟩ | ⟨url, hurl⟩
  · rw [Act.bind_of_error (Act.onFst_of he _)]
    exact hF e _ (List.prefix_refl _)
  · rw [Act.bind_of_ok (Act.onFst_of hurl _), ← hpm]
    exact ⟨page, target, hpage, htarget, rfl, rfl⟩

section Step

variable {requestId : Str} {page c : Page}

/-- What a refresh does to the store, by what becomes of it. -/
theorem refresh_cases (E : PageStore) (a : Refresh) (hu : Dict.Unique pages) :
    (∃ e, (E.outcome a pages).result = .error e ∧ Raises a pages (E.afterRefresh a pages) (E.outcome a pages).asked) ∨
    ∃ html, (E.outcome a pages).result = .ok html ∧
      Returns a pages html (E.afterRefresh a pages) (E.outcome a pages).asked := by
  have hends := refreshDashboardHtml_triple (E := E) (a := a) hu (pages, []) rfl
  unfold PageStore.outcome PageStore.afterRefresh
  rcases hrun : E.refreshDashboardHtml a (pages, []) with ⟨result, left, asked⟩
  rw [hrun] at hends
  cases result with
  | ok html => exact .inr ⟨html, rfl, hends⟩
  | error e => exact .inl ⟨e, rfl, hends⟩

omit [UnicodeData] in
theorem lookup_of_cleanupExpired (hu : Dict.Unique pages) {now : ℚ}
    (h : (cleanupExpired now pages).lookup requestId = some page) : pages.lookup requestId = some page := by
  rw [lookup_cleanupExpired hu] at h
  exact (Option.filter_eq_some_iff.mp h).1

omit [UnicodeData] in
theorem cleanupExpired_keeps (hu : Dict.Unique pages) {now : ℚ} (h : pages.lookup requestId = some page)
    (hn : now < page.expiresEpoch) : (cleanupExpired now pages).lookup requestId = some page := by
  rw [lookup_cleanupExpired hu, h]
  exact Option.filter_eq_some_iff.mpr ⟨rfl, decide_eq_true hn⟩

theorem unique_afterRefresh (E : PageStore) (a : Refresh) (hu : Dict.Unique pages) :
    Dict.Unique (E.afterRefresh a pages) := by
  rcases refresh_cases E a hu with ⟨e, -, hleft, -⟩ | ⟨html, -, found, target, -, -, -, hleft⟩
  · rcases hleft with hleft | hleft
    · rwa [hleft]
    · exact hleft ▸ hu.filter _
  · exact hleft ▸ ((hu.filter _).filter _).setItem _ _

theorem refresh_leavesPages (E : PageStore) (a : Refresh) (hu : Dict.Unique pages) : LeavesPages E a pages := by
  intro e he requestId page hpage hn
  rcases refresh_cases E a hu with ⟨e', -, hleft, -⟩ | ⟨html, hok, -⟩
  · rcases hleft with hleft | hleft
    · rwa [hleft]
    · exact hleft ▸ cleanupExpired_keeps hu hpage hn
  · cases he.symm.trans hok

omit [UnicodeData] in
theorem rebuilt_of_error {o : RefreshOutcome} {e : Exc} (h : o.result = .error e) (requestId : Str)
    (metadata : Option (Dict Value)) : o.rebuilt requestId metadata = none := by
  rw [RefreshOutcome.rebuilt, h]
  exact ite_self _

omit [UnicodeData] in
theorem rebuilt_of_ok {o : RefreshOutcome} {html : Str} (h : o.result = .ok html) (metadata : Option (Dict Value)) :
    o.rebuilt o.refresh.requestId metadata = some ⟨html, o.refresh.registeredAt + 900, metadata⟩ := by
  rw [RefreshOutcome.rebuilt, if_pos rfl, h]
  rfl

theorem refresh_found (E : PageStore) (a : Refresh) (hu : Dict.Unique pages)
    (hc : ∀ page, pages.lookup requestId = some page → page = c)
    (h : (E.afterRefresh a pages).lookup requestId = some page) :
    page = ((E.outcome a pages).rebuilt requestId c.metadata).getD c := by
  rcases refresh_cases E a hu with ⟨e, he, hleft, -⟩ | ⟨html, hok, found, target, hfound, -, -, hleft⟩
  · rw [rebuilt_of_error he, Option.getD_none]
    rcases hleft with hleft | hleft
    · exact hc page (by rwa [hleft] at h)
    · exact hc page (lookup_of_cleanupExpired hu (hleft ▸ h))
  · rw [hleft, lookup_setItem] at h
    by_cases hid : requestId = a.requestId
    · subst hid
      obtain rfl := hc found (lookup_of_cleanupExpired hu hfound)
      have hrebuilt := rebuilt_of_ok hok found.metadata
      rw [if_pos rfl] at h
      exact (Option.some.inj h).symm.trans (congrArg (·.getD found) hrebuilt.symm)
    · have hnone : (E.outcome a pages).rebuilt requestId c.metadata = none := if_neg (Ne.symm hid)
      rw [if_neg hid] at h
      rw [hnone, Option.getD_none]
      exact hc page (lookup_of_cleanupExpired hu (lookup_of_cleanupExpired (hu.filter _) h))

theorem refresh_kept (E : PageStore) (a : Refresh) (hu : Dict.Unique pages)
    (hc : ∀ page, pages.lookup requestId = some page → page = c)
    (hold : (E.outcome a pages).rebuilt requestId c.metadata = none →
      pages.lookup requestId = some c ∧ a.readAt < c.expiresEpoch ∧
        ∀ html, (E.outcome a pages).result = .ok html → a.registeredAt < c.expiresEpoch) :
    (E.afterRefresh a pages).lookup requestId = some (((E.outcome a pages).rebuilt requestId c.metadata).getD c) := by
  rcases refresh_cases E a hu with ⟨e, he, -⟩ | ⟨html, hok, found, target, hfound, -, -, hleft⟩
  · have hnone := rebuilt_of_error he requestId c.metadata
    obtain ⟨hpage, hread, -⟩ := hold hnone
    rw [hnone]
    exact refresh_leavesPages E a hu e he requestId c hpage hread
  · rw [hleft, lookup_setItem]
    by_cases hid : requestId = a.requestId
    · subst hid
      obtain rfl := hc found (lookup_of_cleanupExpired hu hfound)
      have hrebuilt := rebuilt_of_ok hok found.metadata
      rw [if_pos rfl]
      exact congrArg (fun page ↦ some (page.getD found)) hrebuilt.symm
    · have hnone : (E.outcome a pages).rebuilt requestId c.metadata = none := if_neg (Ne.symm hid)
      obtain ⟨hpage, hread, hregistered⟩ := hold hnone
      rw [if_neg hid, hnone]
      exact cleanupExpired_keeps (hu.filter _) (cleanupExpired_keeps hu hpage hread) (hregistered html hok)

theorem refresh_asked (E : PageStore) (a : Refresh) (hu : Dict.Unique pages)
    (hc : ∀ page, pages.lookup a.requestId = some page → page = c) :
    ((E.outcome a pages).asked = [] ∧ ∃ e, (E.outcome a pages).result = .error e) ∨
      ∃ target, refreshTarget c.metadata = .ok target ∧ (E.outcome a pages).asked <+: target.queries ∧
        ∀ html, (E.outcome a pages).result = .ok html → (E.outcome a pages).asked = target.queries := by
  rcases refresh_cases E a hu with ⟨e, he, -, hasked⟩ | ⟨html, -, found, target, hfound, htarget, hasked, -⟩
  · rcases hasked with hasked | ⟨found, target, hfound, htarget, hasked⟩
    · exact .inl ⟨hasked, e, he⟩
    · obtain rfl := hc found (lookup_of_cleanupExpired hu hfound)
      exact .inr ⟨target, htarget, hasked, fun html hok ↦ by cases he.symm.trans hok⟩
  · obtain rfl := hc found (lookup_of_cleanupExpired hu hfound)
    exact .inr ⟨target, htarget, hasked ▸ List.prefix_refl _, fun _ _ ↦ hasked⟩

end Step

section Site

variable {β : Type} {S : Site β} {p : Dict Page} {w : World β}

theorem dashboardQueries_pages (instanceId dbName : Str) (includeLocks : Bool) :
    Invariant (fun w ↦ w.pages = p) (dashboardQueries S instanceId dbName includeLocks) := by
  have hkept : KeptByQueries instanceId (fun _ ↦ True) (fun w : World β ↦ w.pages = p) := fun _ _ _ h ↦ h
  exact dashboardQueries_invariant hkept (fun _ ↦ trivial) includeLocks

theorem getDashboardPageMetadata_site_of_ok (hu : Dict.Unique w.pages) {requestId : Str}
    (hid : PageStore.validateRequestId (.str requestId) = .ok requestId) : getDashboardPageMetadata S requestId w =
      (.ok (((cleanupExpired (S.clock w.trace) w.pages).lookup requestId).bind Page.metadata),
        { w with pages := cleanupExpired (S.clock w.trace) w.pages }) := by
  rw [getDashboardPageMetadata, Act.bind_pure_apply, getValidEntry_site hu, getValidEntry_of_ok hu hid]
  rfl

theorem getDashboardPageMetadata_site_of_error (hu : Dict.Unique w.pages) {requestId : Str} {e : Exc}
    (hid : PageStore.validateRequestId (.str requestId) = .error e) :
    getDashboardPageMetadata S requestId w = (.error e, w) := by
  rw [getDashboardPageMetadata, Act.bind_pure_apply, getValidEntry_site hu, getValidEntry_of_error hid]
  rfl

def unanswered (S : Site β) (w : World β) (requestId : Str) : Refresh :=
  ⟨requestId, S.policy, S.clock [], S.clock w.trace, [], fun _ ↦ .ok []⟩

def RefreshedAt (requestId : Str) (readAt registeredAt : ℚ) (P : Refresh → Prop) : Prop :=
  ∃ a : Refresh, a.requestId = requestId ∧ a.readAt = readAt ∧ a.registeredAt = registeredAt ∧ P a

/-- The refresh among the tools does the same to the store of the process. -/
theorem refreshDashboardHtml_site (hu : Dict.Unique w.pages) (requestId : Str) :
    Triple (fun w' ↦ w' = w) (refreshDashboardHtml S requestId)
      (fun html w' ↦ RefreshedAt requestId (S.clock []) (S.clock w'.trace) (fun a ↦
        ∃ asked, Returns a w.pages html w'.pages asked))
      (fun _ w' ↦ RefreshedAt requestId (S.clock []) (S.clock w'.trace) (fun a ↦ Raises a w.pages w'.pages [])) := by
  have hraises : ∀ (e : Exc) (w' : World β), (w'.pages = w.pages ∨ w'.pages = cleanupExpired (S.clock []) w.pages) →
      RefreshedAt requestId (S.clock []) (S.clock w'.trace) (fun a ↦ Raises a w.pages w'.pages []) :=
    fun _ w' hleft ↦ ⟨unanswered S w' requestId, rfl, rfl, rfl, hleft, .inl rfl⟩
  refine .modify_bind (I := fun w' ↦ w' = w.begin []) (fun w' hw ↦ by rw [hw]) ?_
  refine .bind (R := fun metadata w' ↦
    (metadata = ((cleanupExpired (S.clock []) w.pages).lookup requestId).bind Page.metadata ∧
      validateRequestId requestId = .ok ()) ∧ w'.pages = cleanupExpired (S.clock []) w.pages)
    (fun w' hw ↦ ?_) (fun metadata ↦ .extract (fun hread ↦ ?_))
  · have hu' : Dict.Unique (w.begin []).pages := hu
    rw [hw]
    cases hid : validateRequestId requestId with
    | error e =>
      have hk : PageStore.validateRequestId (.str requestId) = .error e := congrArg (Except.map _) hid
      rw [getDashboardPageMetadata_site_of_error hu' hk]
      exact hraises e _ (.inl rfl)
    | ok u =>
      have hk : PageStore.validateRequestId (.str requestId) = .ok requestId := congrArg (Except.map _) hid
      rw [getDashboardPageMetadata_site_of_ok hu' hk]
      exact ⟨⟨rfl, rfl⟩, rfl⟩
  obtain ⟨hmetadata, hid⟩ := hread
  refine .bind (R := fun target w' ↦ refreshTarget metadata = .ok target ∧
      w'.pages = cleanupExpired (S.clock []) w.pages)
    (.ofExcept (fun _ _ h hw ↦ ⟨h, hw⟩) (fun e w' _ hw ↦ hraises e w' (.inr hw)))
    (fun target ↦ .extract (fun htarget ↦ ?_))
  obtain rfl := (refreshTarget_ok htarget).1
  obtain ⟨page, hpage, hpm⟩ := Option.bind_eq_some_iff.mp hmetadata.symm
  rw [← hpm] at htarget
  have hfails : ∀ (e : Exc) (w' : World β), w'.pages = cleanupExpired (S.clock []) w.pages →
      RefreshedAt requestId (S.clock []) (S.clock w'.trace) (fun a ↦ Raises a w.pages w'.pages []) :=
    fun e w' hw ↦ hraises e w' (.inr hw)
  refine .bind (R := fun _ w' ↦ w'.pages = cleanupExpired (S.clock []) w.pages)
    (checkGuard_triple (fun _ hw _ ↦ hw) (fun w' e hw _ ↦ hfails e (w'.record _) hw)) (fun _ ↦ ?_)
  refine .bind ((dashboardQueries_pages _ _ _).mono (fun _ h ↦ h) (fun _ _ h ↦ h) hfails) (fun results ↦ ?_)
  have hcheck {α : Type} (r : Except Exc α) : Triple (fun w' : World β ↦ w'.pages = cleanupExpired (S.clock []) w.pages)
      (Act.ofExcept r) (fun _ w' ↦ w'.pages = cleanupExpired (S.clock []) w.pages) (fun _ w' ↦
        RefreshedAt requestId (S.clock []) (S.clock w'.trace) (fun a ↦ Raises a w.pages w'.pages [])) :=
    .ofExcept (fun _ _ _ hw ↦ hw) (fun e w' _ hw ↦ hfails e w' hw)
  refine .bind (hcheck _) (fun built ↦ ?_)
  refine .bind (R := fun _ w' ↦ RefreshedAt requestId (S.clock []) (S.clock w'.trace) (fun a ↦
    ∃ asked, Returns a w.pages built.1 w'.pages asked)) ?_ (fun _ ↦ .pure (fun _ h ↦ h))
  -- The three checks of the registration come before it writes.
  refine .bind (hcheck _) (fun _ ↦ .bind (hcheck _) (fun _ ↦ .bind (hcheck _) (fun _ ↦ ?_)))
  refine .modify_bind (fun w' hw ↦ ?_) (.pure (fun _ h ↦ h))
  refine ⟨unanswered S w' requestId, rfl, rfl, rfl, target.queries, page, target, hpage, htarget, rfl, ?_⟩
  have hswept : cleanupExpired (unanswered S w' requestId).readAt w.pages = w'.pages := hw.symm
  rw [hpm, hswept]
  rfl

end Site

section Runs

variable {requestId : Str} {original : Page}

theorem outcomes_concat (E : PageStore) (attempts : List Refresh) (a : Refresh) (pages : Dict Page) :
    E.outcomes (attempts ++ [a]) pages =
      E.outcomes attempts pages ++ [E.outcome a (E.afterRefreshes attempts pages)] := by
  induction attempts generalizing pages with
  | nil => rfl
  | cons b attempts ih => exact congrArg _ (ih (E.afterRefresh b pages))

theorem afterRefreshes_concat (E : PageStore) (attempts : List Refresh) (a : Refresh) (pages : Dict Page) :
    E.afterRefreshes (attempts ++ [a]) pages = E.afterRefresh a (E.afterRefreshes attempts pages) := List.foldl_append

theorem unique_afterRefreshes (E : PageStore) (attempts : List Refresh) (hu : Dict.Unique pages) :
    Dict.Unique (E.afterRefreshes attempts pages) := by
  induction attempts generalizing pages with
  | nil => exact hu
  | cons a attempts ih => exact ih (unique_afterRefresh E a hu)

omit [UnicodeData] in
theorem lastPage_concat (requestId : Str) (original : Page) (outcomes : List RefreshOutcome) (o : RefreshOutcome) :
    lastPage requestId original (outcomes ++ [o]) =
      (o.rebuilt requestId original.metadata).getD (lastPage requestId original outcomes) := by
  unfold lastPage
  rw [List.filterMap_append, List.filterMap_cons]
  cases o.rebuilt requestId original.metadata with
  | none => rw [List.filterMap_nil, List.append_nil, Option.getD_none]
  | some page => rw [List.filterMap_nil, List.getLast?_concat, Option.getD_some, Option.getD_some]

omit [UnicodeData] in
theorem lastPage_metadata (requestId : Str) (original : Page) (outcomes : List RefreshOutcome) :
    (lastPage requestId original outcomes).metadata = original.metadata := by
  induction outcomes using List.reverseRecOn with
  | nil => rfl
  | append_singleton outcomes o ih =>
    rw [lastPage_concat, RefreshOutcome.rebuilt]
    split
    · cases o.result with
      | ok html => rfl
      | error e => exact ih
    · exact ih

/-- A refresh that raises leaves every page that has not expired; through refreshes of any ids a
page keeps its metadata and its target, and has the html and the expiry of its last refresh. -/
theorem refresh_atomic_keepsTarget (E : PageStore) (pages : Dict Page) (hu : Dict.Unique pages) :
    (∀ a, LeavesPages E a pages) ∧ ∀ attempts requestId original, pages.lookup requestId = some original →
      KeepsTarget E attempts pages requestId original := by
  refine ⟨fun a ↦ refresh_leavesPages E a hu, fun attempts requestId original horiginal ↦ ?_⟩
  induction attempts using List.reverseRecOn with
  | nil =>
    refine ⟨fun page hpage ↦ ?_, fun now _ _ ↦ horiginal, fun o ho ↦ absurd ho List.not_mem_nil⟩
    exact Option.some.inj (hpage.symm.trans horiginal)
  | append_singleton attempts a ih =>
    have hpre := unique_afterRefreshes E attempts hu
    have hmetadata := lastPage_metadata requestId original (E.outcomes attempts pages)
    have hlast := lastPage_concat requestId original (E.outcomes attempts pages)
      (E.outcome a (E.afterRefreshes attempts pages))
    rw [← hmetadata] at hlast
    refine ⟨fun page hpage ↦ ?_, fun now hreadings hnow ↦ ?_, fun o ho hid ↦ ?_⟩
    · rw [afterRefreshes_concat] at hpage
      rw [outcomes_concat, hlast]
      exact refresh_found E a hpre ih.found hpage
    · rw [outcomes_concat] at hreadings
      rw [outcomes_concat, hlast] at hnow ⊢
      rw [afterRefreshes_concat]
      refine refresh_kept E a hpre ih.found (fun hnone ↦ ?_)
      rw [hnone, Option.getD_none] at hnow
      obtain ⟨hread, hregistered⟩ := hreadings _ (List.mem_append_right _ (List.mem_singleton_self _))
      refine ⟨ih.kept now (fun o ho ↦ hreadings o (List.mem_append_left _ ho)) hnow, ?_, fun html hok ↦ ?_⟩
      · exact hread.trans_lt hnow
      · exact (hregistered html hok).trans_lt hnow
    · rw [outcomes_concat] at ho
      rcases List.mem_append.mp ho with ho | ho
      · exact ih.asked o ho hid
      · obtain rfl := List.mem_singleton.mp ho
        rw [← hmetadata]
        obtain rfl : a.requestId = requestId := hid
        exact refresh_asked E a hpre ih.found

def salesPage : Page where
  html := "<p>1</p>".toList
  expiresEpoch := 900
  metadata := some [("instance_id".toList, .str "primary".toList), ("instance_number".toList, .int 1),
    ("database_name".toList, .str "Sales".toList), ("include_locks".toList, .bool false)]

def refreshAt (now : ℚ) (answer : Except Exc (List Row)) : Refresh where
  requestId := "report".toList
  policy := {}
  readAt := now
  registeredAt := now
  generatedAtUtc := "2024-01-01T00:00:00+00:00".toList
  execute _ := answer

omit [UnicodeData] in
theorem refresh_atomic_keepsTarget_sales : let _ := asciiData
    (∀ a, LeavesPages plainStore a [("report".toList, salesPage)]) ∧
      KeepsTarget plainStore [refreshAt 10 (.ok []), refreshAt 20 (.error (valueError "connection lost".toList))]
        [("report".toList, salesPage)] "report".toList salesPage := by
  intro U
  have hu : Dict.Unique [("report".toList, salesPage)] := List.nodup_singleton _
  obtain ⟨hleaves, hkeeps⟩ := refresh_atomic_keepsTarget plainStore [("report".toList, salesPage)] hu
  exact ⟨hleaves, hkeeps _ "report".toList salesPage rfl⟩

end Runs

end McpSqlServer
