import McpSqlServer.Tools.PageStore

namespace McpSqlServer

open Library Library.Text Library.Python Library.Admission

variable [UnicodeData] {E : PageStore} {history : List PageRegistration} {now later : ℚ} {pages : Dict Page}
  {calls pre post : List PageCall} {c : PageCall}

section Calls

theorem PageStore.validateHtml_ok {v : Value} {html : Str} (h : PageStore.validateHtml v = .ok html) :
    v = .str html := by
  cases v with
  | str s =>
    obtain ⟨u, -, rfl⟩ := exists_of_map_ok h
    rfl
  | _ => cases h

theorem PageStore.validateRequestId_ok {v : Value} {requestId : Str} (h : PageStore.validateRequestId v = .ok requestId) :
    v = .str requestId := by
  cases v with
  | str s =>
    obtain ⟨u, -, rfl⟩ := exists_of_map_ok h
    rfl
  | _ => cases h

theorem PageStore.validateTtlSeconds_ok {v : Value} {ttl : ℤ} (h : E.validateTtlSeconds v = .ok ttl) :
    E.int v = .ok (some ttl) := by
  obtain ⟨n, hn, h⟩ := exists_of_bind_ok h
  cases n with
  | none => cases h
  | some n =>
    obtain ⟨u, -, rfl⟩ := exists_of_map_ok h
    exact hn

omit [UnicodeData] in
theorem PageStore.copyMetadata_ok {metadata copy : Option (Dict Value)} (h : E.copyMetadata metadata = .ok copy) :
    copy = metadata := by
  cases metadata with
  | none => exact (Except.ok.inj h).symm
  | some metadata =>
    obtain ⟨copy, hc, rfl⟩ := exists_of_map_ok h
    rw [eq_of_deepcopyDict hc]

theorem register_cases (E : PageStore) (now : ℚ) (requestId html ttlSeconds : Value) (metadata : Option (Dict Value)) :
    (∃ e, ∀ pages, ∃ left, (left = pages ∨ left = cleanupExpired now pages) ∧
      E.registerDashboardPageWithMetadata now requestId html ttlSeconds metadata pages = (.error e, left)) ∨
    ∃ r url, (PageCall.register now requestId html ttlSeconds metadata).asRegistration E = some r ∧
      requestId = .str r.requestId ∧ E.copyMetadata r.metadata = .ok r.metadata ∧
      ∀ pages, E.registerDashboardPageWithMetadata now requestId html ttlSeconds metadata pages =
        (.ok url, setItem r.requestId r.page (cleanupExpired now pages)) := by
  unfold PageStore.registerDashboardPageWithMetadata
  cases hh : PageStore.validateHtml html with
  | error e => exact .inl ⟨e, fun pages ↦ ⟨pages, .inl rfl, rfl⟩⟩
  | ok text =>
    cases ht : E.validateTtlSeconds ttlSeconds with
    | error e => exact .inl ⟨e, fun pages ↦ ⟨pages, .inl rfl, rfl⟩⟩
    | ok ttl =>
      cases hr : PageStore.validateRequestId requestId with
      | error e => exact .inl ⟨e, fun pages ↦ ⟨pages, .inl rfl, rfl⟩⟩
      | ok key =>
        cases hm : E.copyMetadata metadata with
        | error e => exact .inl ⟨e, fun pages ↦ ⟨cleanupExpired now pages, .inr rfl, rfl⟩⟩
        | ok copy =>
          obtain rfl := PageStore.validateHtml_ok hh
          obtain rfl := PageStore.validateRequestId_ok hr
          obtain rfl := PageStore.copyMetadata_ok hm
          refine .inr ⟨⟨key, text, now, ttl, copy⟩, _, ?_, rfl, hm, fun pages ↦ rfl⟩
          rw [PageCall.asRegistration, PageStore.validateTtlSeconds_ok ht]

omit [UnicodeData] in
theorem lookup_cleanupExpired (hu : Dict.Unique pages) (now : ℚ) (k : Str) :
    (cleanupExpired now pages).lookup k = (pages.lookup k).filter (fun page ↦ now < page.expiresEpoch) :=
  hu.lookup_filter _ k

/-- The second look at the expiry finds nothing: a page that the sweep left has not expired. -/
theorem getValidEntry_of_ok (hu : Dict.Unique pages) {v : Value} {key : Str}
    (hk : PageStore.validateRequestId v = .ok key) : PageStore.getValidEntry now v pages =
      (.ok ((cleanupExpired now pages).lookup key), cleanupExpired now pages) := by
  have hid : Act.ofExcept (PageStore.validateRequestId v) pages = (.ok key, pages) := by
    rw [hk]
    rfl
  have hsweep : Act.modify (ε := Exc) (cleanupExpired now) pages = (.ok (), cleanupExpired now pages) := rfl
  have hread : Act.read (ε := Exc) (fun pages : Dict Page ↦ pages.lookup key) (cleanupExpired now pages) =
      (.ok ((cleanupExpired now pages).lookup key), cleanupExpired now pages) := rfl
  rw [PageStore.getValidEntry, Act.bind_of_ok hid, Act.bind_of_ok hsweep, Act.bind_of_ok hread]
  cases hl : (cleanupExpired now pages).lookup key with
  | none => rfl
  | some page =>
    rw [lookup_cleanupExpired hu, Option.filter_eq_some_iff] at hl
    have hlt : now < page.expiresEpoch := of_decide_eq_true hl.2
    dsimp only
    rw [if_neg (not_le.mpr hlt)]
    rfl

theorem getValidEntry_of_error {v : Value} {e : Exc} (hk : PageStore.validateRequestId v = .error e) :
    PageStore.getValidEntry now v pages = (.error e, pages) := by
  rw [PageStore.getValidEntry, hk]
  rfl

theorem getDashboardPageMetadata_of_ok (hu : Dict.Unique pages) {v : Value} {key : Str}
    (hk : PageStore.validateRequestId v = .ok key) : E.getDashboardPageMetadata now v pages =
      (E.copyMetadata (((cleanupExpired now pages).lookup key).bind Page.metadata), cleanupExpired now pages) := by
  rw [PageStore.getDashboardPageMetadata, Act.bind_of_ok (getValidEntry_of_ok hu hk)]
  rfl

theorem getDashboardPageMetadata_of_error {v : Value} {e : Exc} (hk : PageStore.validateRequestId v = .error e) :
    E.getDashboardPageMetadata now v pages = (.error e, pages) := by
  rw [PageStore.getDashboardPageMetadata, Act.bind_of_error (getValidEntry_of_error hk)]

end Calls

def PageCall.recorded (E : PageStore) (c : PageCall) : List PageRegistration :=
  if passes (pageGate E c []).1 then (c.asRegistration E).toList else []

def PageCall.answered (E : PageStore) (history : List PageRegistration) : PageCall → Except Exc PageAnswer
  | .register now requestId html ttlSeconds metadata =>
    ((PageCall.register now requestId html ttlSeconds metadata).run E []).1
  | .getPage now requestId => (PageStore.validateRequestId requestId).map (fun requestId ↦
      .page ((currentRegistration history now requestId).map PageRegistration.html))
  | .getMetadata now requestId => (PageStore.validateRequestId requestId).map (fun requestId ↦
      .metadata ((currentRegistration history now requestId).bind PageRegistration.metadata))

/-- The store and the registrations that returned answer alike from `now` on. -/
structure Stored (E : PageStore) (history : List PageRegistration) (now : ℚ) (pages : Dict Page) : Prop where
  unique : Dict.Unique pages
  tracks : ExpiringMap.Tracks PageRegistration.requestId PageRegistration.page Page.expiresEpoch history now
    (fun requestId ↦ pages.lookup requestId)
  copyable : ∀ r ∈ history, E.copyMetadata r.metadata = .ok r.metadata

namespace Stored

omit [UnicodeData] in
theorem nil (E : PageStore) (now : ℚ) : Stored E [] now [] :=
  ⟨List.nodup_nil, ExpiringMap.Tracks.nil now, fun _ hr ↦ absurd hr List.not_mem_nil⟩

omit [UnicodeData] in
theorem mono (h : Stored E history now pages) (hn : now ≤ later) : Stored E history later pages :=
  ⟨h.unique, h.tracks.mono hn, h.copyable⟩

omit [UnicodeData] in
theorem sweep (h : Stored E history now pages) : Stored E history now (cleanupExpired now pages) := by
  refine ⟨h.unique.filter _, ?_, h.copyable⟩
  have ht := h.tracks.purge
  simp only [← lookup_cleanupExpired h.unique] at ht
  exact ht

omit [UnicodeData] in
theorem write (h : Stored E history now pages) {r : PageRegistration} (hr : E.copyMetadata r.metadata = .ok r.metadata) :
    Stored E (history ++ [r]) now (setItem r.requestId r.page pages) := by
  refine ⟨h.unique.setItem _ _, ?_, fun r' hr' ↦ ?_⟩
  · have ht := h.tracks.write r
    simp only [← lookup_setItem] at ht
    exact ht
  · rcases List.mem_append.mp hr' with hr' | hr'
    · exact h.copyable r' hr'
    · rw [List.mem_singleton.mp hr']
      exact hr

omit [UnicodeData] in
theorem lookup_sweep (h : Stored E history now pages) (key : Str) :
    (cleanupExpired now pages).lookup key = (currentRegistration history now key).map PageRegistration.page := by
  rw [lookup_cleanupExpired h.unique]
  exact h.tracks.lookup_purge key

omit [UnicodeData] in
theorem copy_current (h : Stored E history now pages) (key : Str) :
    E.copyMetadata ((currentRegistration history now key).bind PageRegistration.metadata) =
      .ok ((currentRegistration history now key).bind PageRegistration.metadata) := by
  cases hc : currentRegistration history now key with
  | none => rfl
  | some r =>
    have hlast := (Option.filter_eq_some_iff.mp hc).1
    exact h.copyable r (List.mem_filter.mp (List.mem_of_getLast? hlast)).1

end Stored

section Answers

theorem run_register (E : PageStore) (requestId html ttlSeconds : Value) (metadata : Option (Dict Value)) :
    (PageCall.register now requestId html ttlSeconds metadata).run E pages =
      ((E.registerDashboardPageWithMetadata now requestId html ttlSeconds metadata pages).1.map .url,
        (E.registerDashboardPageWithMetadata now requestId html ttlSeconds metadata pages).2) :=
  Act.bind_pure_apply _ _ _

theorem run_getPage (hu : Dict.Unique pages) (v : Value) : (PageCall.getPage now v).run E pages =
    match PageStore.validateRequestId v with
    | .error e => (.error e, pages)
    | .ok key => (.ok (.page (((cleanupExpired now pages).lookup key).map Page.html)), cleanupExpired now pages) := by
  rw [PageCall.run, Act.bind_pure_apply, PageStore.getDashboardPage, Act.bind_pure_apply]
  cases hk : PageStore.validateRequestId v with
  | error e =>
    rw [getValidEntry_of_error hk]
    rfl
  | ok key =>
    rw [getValidEntry_of_ok hu hk]
    rfl

theorem run_getMetadata (hu : Dict.Unique pages) (v : Value) : (PageCall.getMetadata now v).run E pages =
    match PageStore.validateRequestId v with
    | .error e => (.error e, pages)
    | .ok key => ((E.copyMetadata (((cleanupExpired now pages).lookup key).bind Page.metadata)).map .metadata,
        cleanupExpired now pages) := by
  rw [PageCall.run, Act.bind_pure_apply]
  cases hk : PageStore.validateRequestId v with
  | error e =>
    rw [getDashboardPageMetadata_of_error hk]
    rfl
  | ok key =>
    rw [getDashboardPageMetadata_of_ok hu hk]

/-- A call is answered from the registrations before it, and the store goes on answering like them. -/
theorem Stored.run (h : Stored E history now pages) (c : PageCall) (hn : now ≤ c.time) :
    (c.run E pages).1 = c.answered E history ∧ Stored E (history ++ c.recorded E) c.time (c.run E pages).2 ∧
      (if passes (pageGate E c pages).1 then (c.asRegistration E).toList else []) = c.recorded E := by
  cases c with
  | register time requestId html ttlSeconds metadata =>
    have hm : Stored E history time pages := h.mono hn
    rcases register_cases E time requestId html ttlSeconds metadata with ⟨e, he⟩ | ⟨r, url, hr, -, hcopy, hrun⟩
    · obtain ⟨left, hleft, hrun⟩ := he pages
      obtain ⟨left₀, -, hrun₀⟩ := he []
      have hrecorded : (PageCall.register time requestId html ttlSeconds metadata).recorded E = [] := by
        rw [PageCall.recorded, pageGate, run_register, hrun₀]
        rfl
      rw [hrecorded, List.append_nil, PageCall.answered, pageGate, run_register, run_register, hrun, hrun₀]
      refine ⟨rfl, ?_, rfl⟩
      rcases hleft with rfl | rfl
      · exact hm
      · exact hm.sweep
    · have hrecorded : (PageCall.register time requestId html ttlSeconds metadata).recorded E = [r] := by
        rw [PageCall.recorded, pageGate, run_register, hrun, hr]
        rfl
      rw [hrecorded, PageCall.answered, pageGate, run_register, run_register, hrun, hrun, hr]
      exact ⟨rfl, hm.sweep.write hcopy, rfl⟩
  | getPage time requestId =>
    have hm : Stored E history time pages := h.mono hn
    have hrecorded : (PageCall.getPage time requestId).recorded E = [] := ite_self _
    rw [hrecorded, List.append_nil, PageCall.answered, run_getPage h.unique]
    refine ⟨?_, ?_, ite_self _⟩
    · cases PageStore.validateRequestId requestId with
      | error e => rfl
      | ok key =>
        have hl := hm.lookup_sweep key
        show Except.ok (PageAnswer.page (((cleanupExpired time pages).lookup key).map Page.html)) = _
        rw [hl, Option.map_map]
        rfl
    · cases PageStore.validateRequestId requestId with
      | error e => exact hm
      | ok key => exact hm.sweep
  | getMetadata time requestId =>
    have hm : Stored E history time pages := h.mono hn
    have hrecorded : (PageCall.getMetadata time requestId).recorded E = [] := ite_self _
    rw [hrecorded, List.append_nil, PageCall.answered, run_getMetadata h.unique]
    refine ⟨?_, ?_, ite_self _⟩
    · cases PageStore.validateRequestId requestId with
      | error e => rfl
      | ok key =>
        show (E.copyMetadata (((cleanupExpired time pages).lookup key).bind Page.metadata)).map _ = _
        rw [hm.lookup_sweep, Option.bind_map]
        exact congrArg (Except.map _) (hm.copy_current key)
    · cases PageStore.validateRequestId requestId with
      | error e => exact hm
      | ok key => exact hm.sweep

end Answers

section Runs

theorem registrations_concat (pre : List PageCall) (c : PageCall) : registrations E (pre ++ [c]) =
    registrations E pre ++ (if passes (outcome (pageGate E) [] pre c) then (c.asRegistration E).toList else []) :=
  filterMap_admitted_concat (PageCall.asRegistration E) pre c

omit [UnicodeData] in
theorem PagesClocked.append (h : PagesClocked (pre ++ post)) :
    PagesClocked pre ∧ PagesClocked post ∧ ∀ c ∈ pre, ∀ d ∈ post, c.time ≤ d.time := List.pairwise_append.mp h

theorem stored_after (h : PagesClocked calls) (hn : ∀ c ∈ calls, c.time ≤ now) :
    Stored E (registrations E calls) now (after (pageGate E) [] calls) := by
  induction calls using List.reverseRecOn generalizing now with
  | nil => exact Stored.nil E now
  | append_singleton pre c ih =>
    obtain ⟨hpre, -, hlast⟩ := h.append
    have hs := ih hpre (fun d hd ↦ hlast d hd c (List.mem_singleton_self c))
    obtain ⟨-, hafter, hrecorded⟩ := hs.run c le_rfl
    rw [after_concat, registrations_concat]
    have hout : (if passes (outcome (pageGate E) [] pre c) then (c.asRegistration E).toList else []) =
      c.recorded E := hrecorded
    rw [hout]
    exact hafter.mono (hn c (List.mem_append_right _ (List.mem_singleton_self c)))

theorem stored_before (h : PagesClocked calls) (hc : calls = pre ++ c :: post) :
    Stored E (registrations E pre) c.time (after (pageGate E) [] pre) := by
  rw [hc] at h
  obtain ⟨hpre, -, hlast⟩ := h.append
  exact stored_after hpre (fun d hd ↦ hlast d hd c List.mem_cons_self)

theorem pageAnswer_eq (h : PagesClocked calls) (hc : calls = pre ++ c :: post) :
    pageAnswer E pre c = c.answered E (registrations E pre) := by
  have hs : Stored E (registrations E pre) c.time (after (pageGate E) [] pre) := stored_before h hc
  exact (hs.run c le_rfl).1

def answeredTranscript (E : PageStore) :
    List PageCall → List PageRegistration → List (PageCall × Except Exc PageAnswer)
  | [], _ => []
  | c :: calls, history => (c, c.answered E history) :: answeredTranscript E calls (history ++ c.recorded E)

theorem Stored.transcript_eq (h : Stored E history now pages) (hc : PagesClocked calls)
    (hn : ∀ c ∈ calls, now ≤ c.time) : transcript E calls pages = answeredTranscript E calls history := by
  induction calls generalizing history now pages with
  | nil => rfl
  | cons c calls ih =>
    obtain ⟨hfirst, hrest⟩ := List.pairwise_cons.mp hc
    obtain ⟨hanswer, hafter, -⟩ := h.run c (hn c List.mem_cons_self)
    rw [transcript, answeredTranscript, hanswer, ih hafter hrest hfirst]

theorem mem_recorded {r : PageRegistration} (hr : r ∈ c.recorded E) : c.aboutId = some r.requestId := by
  rw [PageCall.recorded] at hr
  split at hr
  · rename_i hp
    cases c with
    | register time requestId html ttlSeconds metadata =>
      rcases register_cases E time requestId html ttlSeconds metadata with ⟨e, he⟩ | ⟨r', url, hr', hid, -, -⟩
      · obtain ⟨left, -, hrun⟩ := he []
        rw [pageGate, run_register, hrun] at hp
        cases hp
      · rw [hr'] at hr
        rw [List.mem_singleton.mp hr, PageCall.aboutId, PageCall.requestId, hid]
    | getPage time requestId => exact absurd hr List.not_mem_nil
    | getMetadata time requestId => exact absurd hr List.not_mem_nil
  · exact absurd hr List.not_mem_nil

variable {others : List PageRegistration} {key : Str}

theorem answered_congr (hc : c.aboutId = some key) (h : history.filter (fun r ↦ r.requestId = key) =
    others.filter (fun r ↦ r.requestId = key)) : c.answered E history = c.answered E others := by
  have hcurrent (now : ℚ) : currentRegistration history now key = currentRegistration others now key :=
    congrArg (Option.filter _) (ExpiringMap.latest_congr PageRegistration.requestId h)
  have hkey {v : Value} {k : Str} (hv : (PageCall.getPage 0 v).aboutId = some key)
      (hk : PageStore.validateRequestId v = .ok k) : k = key := by
    obtain rfl := PageStore.validateRequestId_ok hk
    exact Option.some.inj hv
  cases c with
  | register time requestId html ttlSeconds metadata => rfl
  | getPage time requestId =>
    rw [PageCall.answered, PageCall.answered]
    cases hk : PageStore.validateRequestId requestId with
    | error e => rfl
    | ok k =>
      obtain rfl := hkey hc hk
      show Except.ok (PageAnswer.page ((currentRegistration history time k).map PageRegistration.html)) = _
      rw [hcurrent]
      rfl
  | getMetadata time requestId =>
    rw [PageCall.answered, PageCall.answered]
    cases hk : PageStore.validateRequestId requestId with
    | error e => rfl
    | ok k =>
      obtain rfl := hkey hc hk
      show Except.ok (PageAnswer.metadata ((currentRegistration history time k).bind PageRegistration.metadata)) = _
      rw [hcurrent]
      rfl

/-- The calls about one id are answered as in a run that makes no other call. -/
theorem filter_answeredTranscript (h : history.filter (fun r ↦ r.requestId = key) =
    others.filter (fun r ↦ r.requestId = key)) :
    (answeredTranscript E calls history).filter (fun e ↦ e.1.aboutId = some key) =
      answeredTranscript E (calls.filter (fun c ↦ c.aboutId = some key)) others := by
  induction calls generalizing history others with
  | nil => rfl
  | cons c calls ih =>
    rw [answeredTranscript]
    by_cases hc : c.aboutId = some key
    · rw [List.filter_cons_of_pos (by simpa using hc), List.filter_cons_of_pos (by simpa using hc), answeredTranscript,
        answered_congr hc h]
      refine congrArg _ (ih ?_)
      rw [List.filter_append, List.filter_append, h]
    · rw [List.filter_cons_of_neg (by simpa using hc), List.filter_cons_of_neg (by simpa using hc)]
      apply ih
      have hnone : (c.recorded E).filter (fun r ↦ r.requestId = key) = [] := by
        apply List.filter_eq_nil_iff.mpr
        intro r hr hk
        exact hc ((mem_recorded hr).trans (congrArg some (of_decide_eq_true hk)))
      rw [List.filter_append, hnone, List.append_nil, h]

theorem pageAnswer_getPage (h : PagesClocked calls) {requestId : Str}
    (hc : calls = pre ++ .getPage now (.str requestId) :: post) (hid : validateRequestId requestId = .ok ()) :
    pageAnswer E pre (.getPage now (.str requestId)) =
      .ok (.page ((currentRegistration (registrations E pre) now requestId).map PageRegistration.html)) := by
  rw [pageAnswer_eq h hc, PageCall.answered, PageStore.validateRequestId, hid]
  rfl

theorem pageAnswer_getMetadata (h : PagesClocked calls) {requestId : Str}
    (hc : calls = pre ++ .getMetadata now (.str requestId) :: post) (hid : validateRequestId requestId = .ok ()) :
    pageAnswer E pre (.getMetadata now (.str requestId)) =
      .ok (.metadata ((currentRegistration (registrations E pre) now requestId).bind PageRegistration.metadata)) := by
  rw [pageAnswer_eq h hc, PageCall.answered, PageStore.validateRequestId, hid]
  rfl

/-- A call that raises changes no later answer. -/
theorem transcript_of_error (h : PagesClocked calls) (hc : calls = pre ++ c :: post) {e : Exc}
    (he : pageAnswer E pre c = .error e) :
    transcript E post (after (pageGate E) [] (pre ++ [c])) = transcript E post (after (pageGate E) [] pre) := by
  have hs : Stored E (registrations E pre) c.time (after (pageGate E) [] pre) := stored_before h hc
  obtain ⟨-, hafter, hrecorded⟩ := hs.run c le_rfl
  have hnone : c.recorded E = [] := by
    rw [← hrecorded, pageGate]
    show (if passes ((pageAnswer E pre c).map _) then _ else _) = _
    rw [he]
    rfl
  rw [hnone, List.append_nil] at hafter
  rw [hc] at h
  obtain ⟨hfirst, hpost⟩ := List.pairwise_cons.mp h.append.2.1
  rw [after_concat, hs.transcript_eq hpost hfirst]
  exact hafter.transcript_eq hpost hfirst

theorem filter_transcript (h : PagesClocked calls) (key : Str) :
    (transcript E calls []).filter (fun e ↦ e.1.aboutId = some key) =
      transcript E (calls.filter (fun c ↦ c.aboutId = some key)) [] := by
  cases calls with
  | nil => rfl
  | cons c calls =>
    have hstart : Stored E [] c.time [] := Stored.nil E c.time
    have hfirst : ∀ d ∈ c :: calls, c.time ≤ d.time := by
      intro d hd
      rcases List.mem_cons.mp hd with rfl | hd
      · exact le_rfl
      · exact (List.pairwise_cons.mp h).1 d hd
    rw [hstart.transcript_eq h hfirst,
      hstart.transcript_eq (h.filter _) (fun d hd ↦ hfirst d (List.mem_filter.mp hd).1)]
    exact filter_answeredTranscript rfl

end Runs

/-- The page store is a map with expiry: a page is found exactly while the latest registration of
its id that returned lives; a call that raises and calls about other ids change no answer. -/
theorem pageStore_refines (E : PageStore) (calls : List PageCall) (h : PagesClocked calls) :
    (∀ pre now requestId post, calls = pre ++ .getPage now (.str requestId) :: post →
      validateRequestId requestId = .ok () → pageAnswer E pre (.getPage now (.str requestId)) =
        .ok (.page ((currentRegistration (registrations E pre) now requestId).map PageRegistration.html))) ∧
    (∀ pre now requestId post, calls = pre ++ .getMetadata now (.str requestId) :: post →
      validateRequestId requestId = .ok () → pageAnswer E pre (.getMetadata now (.str requestId)) =
        .ok (.metadata ((currentRegistration (registrations E pre) now requestId).bind PageRegistration.metadata))) ∧
    (∀ pre c post e, calls = pre ++ c :: post → pageAnswer E pre c = .error e →
      transcript E post (after (pageGate E) [] (pre ++ [c])) = transcript E post (after (pageGate E) [] pre)) ∧
    (∀ requestId, (transcript E calls []).filter (fun e ↦ e.1.aboutId = some requestId) =
      transcript E (calls.filter (fun c ↦ c.aboutId = some requestId)) []) :=
  ⟨fun _ _ _ _ hc hid ↦ pageAnswer_getPage h hc hid, fun _ _ _ _ hc hid ↦ pageAnswer_getMetadata h hc hid,
    fun _ _ _ _ hc he ↦ transcript_of_error h hc he, filter_transcript h⟩

section Site

variable {β : Type} {S : Site β} {w : World β}

/-- The tools register their pages in the store of the process. -/
theorem registerDashboardPageWithMetadata_site (hE : E.publicBaseUrl = S.publicBaseUrl)
    {metadata : Option (Dict Value)} (hm : E.copyMetadata metadata = .ok metadata) (requestId html : Str)
    (ttlSeconds : ℤ) : registerDashboardPageWithMetadata S requestId html ttlSeconds metadata w =
      ((E.registerDashboardPageWithMetadata (S.clock w.trace) (.str requestId) (.str html) (.int ttlSeconds)
          metadata w.pages).1,
        { w with pages := (E.registerDashboardPageWithMetadata (S.clock w.trace) (.str requestId) (.str html)
          (.int ttlSeconds) metadata w.pages).2 }) := by
  have hhtml : PageStore.validateHtml (.str html) = (validateHtml html).map (fun _ ↦ html) := rfl
  have hid : PageStore.validateRequestId (.str requestId) = (validateRequestId requestId).map (fun _ ↦ requestId) := rfl
  have httl : E.validateTtlSeconds (.int ttlSeconds) = (validateTtlSeconds ttlSeconds).map (fun _ ↦ ttlSeconds) := rfl
  unfold registerDashboardPageWithMetadata PageStore.registerDashboardPageWithMetadata
  rw [hhtml, hid, httl, hm, hE]
  cases validateHtml html with
  | error e => rfl
  | ok u =>
    cases validateTtlSeconds ttlSeconds with
    | error e => rfl
    | ok u =>
      cases validateRequestId requestId with
      | error e => rfl
      | ok u => rfl

/-- The tools look their pages up in the store of the process. -/
theorem getValidEntry_site (hu : Dict.Unique w.pages) (requestId : Str) : getValidEntry S requestId w =
    ((PageStore.getValidEntry (S.clock w.trace) (.str requestId) w.pages).1,
      { w with pages := (PageStore.getValidEntry (S.clock w.trace) (.str requestId) w.pages).2 }) := by
  unfold getValidEntry
  cases hid : validateRequestId requestId with
  | error e =>
    have hk : PageStore.validateRequestId (.str requestId) = .error e := by
      rw [PageStore.validateRequestId, hid]
      rfl
    rw [getValidEntry_of_error hk]
    rfl
  | ok u =>
    have hk : PageStore.validateRequestId (.str requestId) = .ok requestId := by
      rw [PageStore.validateRequestId, hid]
      rfl
    rw [getValidEntry_of_ok hu hk]
    rfl

end Site

section Sample

def plainStore : PageStore where
  containerText _ := []
  objectInt _ := .ok none
  objectExceeds _ _ := .ok false
  uncopyable _ := none
  publicBaseUrl := "http://localhost:8080".toList

def samplePages : List PageCall :=
  [.register 0 (.str "report".toList) (.str "<p>1</p>".toList) (.int 10) none,
    .register 5 (.str "report".toList) (.str " ".toList) (.int 10) none,
    .getPage 9 (.str "report".toList), .getPage 10 (.str "report".toList)]

omit [UnicodeData] in
theorem pageStore_refines_sample : let _ := asciiData
    pageAnswer plainStore (samplePages.take 2) (.getPage 9 (.str "report".toList)) =
      .ok (.page (some "<p>1</p>".toList)) ∧
    pageAnswer plainStore (samplePages.take 3) (.getPage 10 (.str "report".toList)) = .ok (.page none) := by
  have hlive : (currentRegistration (@registrations asciiData plainStore (samplePages.take 2)) 9 "report".toList).map
      PageRegistration.html = some "<p>1</p>".toList := by decide +kernel
  have hdead : (currentRegistration (@registrations asciiData plainStore (samplePages.take 3)) 10 "report".toList).map
      PageRegistration.html = none := by decide +kernel
  have hid : @validateRequestId asciiData "report".toList = .ok () := by decide +kernel
  have hclock : PagesClocked samplePages := by
    unfold PagesClocked
    decide +kernel
  intro _
  obtain ⟨hpage, -⟩ := @pageStore_refines asciiData plainStore samplePages hclock
  constructor
  · rw [hpage (samplePages.take 2) 9 _ (samplePages.drop 3) rfl hid, hlive]
  · rw [hpage (samplePages.take 3) 10 _ [] rfl hid, hdead]

end Sample

end McpSqlServer
