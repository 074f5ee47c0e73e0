import McpSqlServer.Library.Python.IntText
import McpSqlServer.Tools.DashboardHtml

namespace McpSqlServer.DashboardPayloads

open Library.Text Library.Python

/-- The columns that steer the page: the grouping of the chains and the long waits. -/
def steeringColumns : List Str := ["blocking_session_id".toList, "wait_duration_ms".toList]

def CellAlike (cell cell' : Str × Value) : Prop :=
  cell.1 = cell'.1 ∧ (cell.2 = cell'.2 ∨ cell.1 ∉ steeringColumns ∧ ∃ s t, cell.2 = .str s ∧ cell'.2 = .str t)

abbrev RowAlike (row row' : Row) : Prop := List.Forall₂ CellAlike row row'

/-- Inputs that differ only in the contents of strings. -/
structure DashboardInput.Alike (x y : DashboardInput) : Prop where
  instanceNumber : x.instanceNumber = y.instanceNumber
  sessions : List.Forall₂ RowAlike x.sessions y.sessions
  lockChains : x.lockChains = y.lockChains
  tranLocks : x.tranLocks = y.tranLocks
  waitingTasks : List.Forall₂ RowAlike x.waitingTasks y.waitingTasks
  headBlockers : x.headBlockers = y.headBlockers
  blockingChains : Option.Rel (List.Forall₂ RowAlike) x.blockingChains y.blockingChains
  refreshUrl : x.refreshUrl = y.refreshUrl ∨
    ∃ u v, u ≠ [] ∧ v ≠ [] ∧ x.refreshUrl = some u ∧ y.refreshUrl = some v

section Pieces

variable {B : Builtins}

@[simp] theorem markup_intText (n : ℤ) : markup (intText n) = [] := by
  rw [markup_eq_nil_iff]
  intro c hc
  rcases mem_intText hc with rfl | hd
  · rfl
  · cases hm : isMarkup c with
    | false => rfl
    | true =>
      simp only [isMarkup, Bool.or_eq_true, decide_eq_true_eq] at hm
      rcases hm with ((rfl | rfl) | rfl) | rfl <;> cases hd

theorem markup_esc (v : Value) : markup (esc B v) = [] := by
  unfold esc
  split
  · decide
  · exact markup_escapeHtml _

theorem sameMarkup_esc (v v' : Value) : SameMarkup (esc B v) (esc B v') := .of_nil (markup_esc v) (markup_esc v')

theorem sameMarkup_int (m n : ℤ) : SameMarkup (intText m) (intText n) := .of_nil (markup_intText m) (markup_intText n)

theorem sameMarkup_rowClass (cssClass cssClass' : RowClass) : SameMarkup cssClass.text cssClass'.text := by
  have hall (k : RowClass) : markup k.text = [] := by cases k <;> decide
  exact .of_nil (hall _) (hall _)

theorem sameMarkup_statusBadge (cssClass cssClass' : RowClass) :
    SameMarkup cssClass.statusBadge cssClass'.statusBadge := by
  have hall (k : RowClass) : markup k.statusBadge = "<\"\"><>".toList := by cases k <;> decide
  exact (hall _).trans (hall _).symm

theorem sameMarkup_tableCell {openTag openTag' : Str} (h : SameMarkup openTag openTag') (v v' : Value) :
    SameMarkup (tableCell B openTag v) (tableCell B openTag' v') := (h.append (sameMarkup_esc v v')).text _

theorem sameMarkup_sessionRow (session session' : Row) (cssClass cssClass' : RowClass) :
    SameMarkup (sessionRow B session cssClass) (sessionRow B session' cssClass') := by
  have hcells : SameMarkup (sessionCells.map (fun c ↦ tableCell B c.1 (session.get c.2))).flatten
      (sessionCells.map (fun c ↦ tableCell B c.1 (session'.get c.2))).flatten := by
    generalize sessionCells = cells
    refine .flatten (R := fun c c' ↦ c = c') (List.forall₂_same.mpr (fun _ _ ↦ rfl)) (fun c c' h ↦ ?_)
    rw [h]
    exact sameMarkup_tableCell (.refl _) _ _
  unfold sessionRow
  refine .text (.append (.text (.append (.text (.append (.refl _) ?_) _) ?_) _) hcells) _
  · exact sameMarkup_rowClass cssClass cssClass'
  · exact sameMarkup_statusBadge cssClass cssClass'

variable [UnicodeData]

theorem sameMarkup_sessionsTable {sessions sessions' : List Row} (h : List.Forall₂ RowAlike sessions sessions')
    (headBlockers : List ℤ) :
    SameMarkup (htmlSessionsTable B sessions headBlockers) (htmlSessionsTable B sessions' headBlockers) := by
  unfold htmlSessionsTable
  dsimp only
  refine .text (.append (.text (.text (.text (.append (.text (.append (.text (.append (.text (.append (.text
    (.append (.refl _) ?_) _) ?_) _) ?_) _) ?_) _) ?_) _) _) _) ?_) _
  · exact sameMarkup_int _ _
  · exact sameMarkup_int _ _
  · exact sameMarkup_int _ _
  · exact sameMarkup_int _ _
  · exact sameMarkup_int _ _
  · exact .flatten h (fun session session' _ ↦ sameMarkup_sessionRow _ _ _ _)

omit [UnicodeData] in
theorem sameMarkup_toolbar {u v : Option Str} (h : u = v ∨ ∃ s t, s ≠ [] ∧ t ≠ [] ∧ u = some s ∧ v = some t) :
    SameMarkup (htmlToolbar B u) (htmlToolbar B v) := by
  rcases h with rfl | ⟨s, t, hs, ht, rfl, rfl⟩
  · exact .refl _
  · obtain ⟨c, s, rfl⟩ := List.exists_cons_of_ne_nil hs
    obtain ⟨d, t, rfl⟩ := List.exists_cons_of_ne_nil ht
    exact .text (.text (.text (.append (.refl _) (sameMarkup_esc _ _)) _) _) _

omit [UnicodeData] in
theorem refreshScript_eq {u v : Option Str} (h : u = v ∨ ∃ s t, s ≠ [] ∧ t ≠ [] ∧ u = some s ∧ v = some t) :
    htmlRefreshScript u = htmlRefreshScript v := by
  rcases h with rfl | ⟨s, t, hs, ht, rfl, rfl⟩
  · rfl
  · obtain ⟨c, s, rfl⟩ := List.exists_cons_of_ne_nil hs
    obtain ⟨d, t, rfl⟩ := List.exists_cons_of_ne_nil ht
    rfl

omit [UnicodeData] in
theorem rowsAlike_getD {chains chains' : Option (List Row)} (h : Option.Rel (List.Forall₂ RowAlike) chains chains') :
    List.Forall₂ RowAlike (chains.getD []) (chains'.getD []) := by
  cases h with
  | none => exact .nil
  | some hrows => exact hrows

omit [UnicodeData] in
theorem sameMarkup_header {x y : DashboardInput} (h : x.Alike y) (generatedAt generatedAt' : Str) :
    SameMarkup (htmlHeader B x.instanceNumber x.databaseName generatedAt x.sessions.length x.tranLocks.length
        x.waitingTasks.length (x.blockingChains.getD []).length x.refreshUrl)
      (htmlHeader B y.instanceNumber y.databaseName generatedAt' y.sessions.length y.tranLocks.length
        y.waitingTasks.length (y.blockingChains.getD []).length y.refreshUrl) := by
  rw [h.instanceNumber, h.sessions.length_eq, h.tranLocks, h.waitingTasks.length_eq,
    (rowsAlike_getD h.blockingChains).length_eq]
  unfold htmlHeader
  refine .append (.text (.text (.text (.text (.text (.text (.text (.text (.text (.text (.text (.text (.text (.text
    (.text (.append (.text (.text (.append (.refl _) ?_) _) _) ?_) _) _) _) _) _) _) _) _) _) _) _) _) _) _) _) ?_
  · exact sameMarkup_esc _ _
  · exact sameMarkup_esc _ _
  · exact sameMarkup_toolbar h.refreshUrl

omit [UnicodeData] in
theorem sameMarkup_footer (generatedAt generatedAt' : Str) :
    SameMarkup (htmlFooter B generatedAt) (htmlFooter B generatedAt') := by
  unfold htmlFooter
  exact .text (.text (.append (.refl _) (sameMarkup_esc _ _)) _) _

omit [UnicodeData] in
theorem sameMarkup_document {n n' : ℤ} {header header' table table' chain chain' cards cards' footer footer' script
    script' : Str} (hn : n = n') (hheader : SameMarkup header header') (htable : SameMarkup table table')
    (hchain : SameMarkup chain chain') (hcards : cards = cards') (hfooter : SameMarkup footer footer')
    (hscript : script = script') : SameMarkup (htmlDocument n header table chain cards footer script)
      (htmlDocument n' header' table' chain' cards' footer' script') := by
  subst hn hcards hscript
  unfold htmlDocument
  exact .text (.text (.append (.text (.append (.append (.append (.refl _) hheader) htable) hchain) _) hfooter) _) _

end Pieces

section Cells

variable {B : Builtins} {row row' : Row}

theorem rowAlike_lookup (h : RowAlike row row') (column : Str) : row.lookup column = row'.lookup column ∨
    column ∉ steeringColumns ∧ ∃ s t, row.lookup column = some (.str s) ∧ row'.lookup column = some (.str t) := by
  induction h with
  | nil => exact .inl rfl
  | @cons cell cell' row row' hcell _ ih =>
    obtain ⟨k, v⟩ := cell
    obtain ⟨k', v'⟩ := cell'
    obtain ⟨hk, hv⟩ := hcell
    obtain rfl : k = k' := hk
    rw [lookup_cons_eq, lookup_cons_eq]
    by_cases hc : column = k
    · rw [if_pos hc, if_pos hc]
      rcases hv with hv | ⟨hsteer, s, t, hs, ht⟩
      · exact .inl (congrArg some hv)
      · exact .inr ⟨hc ▸ hsteer, s, t, congrArg some hs, congrArg some ht⟩
    · rw [if_neg hc, if_neg hc]
      exact ih

theorem rowAlike_get_eq (h : RowAlike row row') {column : Str} (hc : column ∈ steeringColumns) :
    row.get column = row'.get column := by
  rcases rowAlike_lookup h column with h | ⟨hn, -⟩
  · exact congrArg (fun v ↦ Option.getD v Value.none) h
  · exact absurd hc hn

theorem isLongWait_eq (h : RowAlike row row') : isLongWait B row = isLongWait B row' := by
  unfold isLongWait
  rw [rowAlike_get_eq h (by decide)]

variable [UnicodeData]

theorem sameOutcome_int (h : RowAlike row row') (column : Str) :
    SameOutcome (fun _ _ ↦ True) (B.int (orDefault (row.get column) (.int 0)))
      (B.int (orDefault (row'.get column) (.int 0))) := by
  have hrefl (v : Value) : SameOutcome (fun _ _ ↦ True) (B.int v) (B.int v) := by
    cases B.int v with
    | ok n => exact .ok trivial
    | error e => exact .error e
  have hstr (s : Str) : ∃ n, B.int (orDefault (.str s) (.int 0)) = .ok n := by
    unfold orDefault
    split
    · exact ⟨_, rfl⟩
    · exact ⟨_, rfl⟩
  rcases rowAlike_lookup h column with h | ⟨-, s, t, hs, ht⟩
  · have hget : row.get column = row'.get column := congrArg (fun v ↦ Option.getD v Value.none) h
    rw [hget]
    exact hrefl _
  · have hgets : row.get column = .str s := congrArg (fun v ↦ Option.getD v Value.none) hs
    have hgett : row'.get column = .str t := congrArg (fun v ↦ Option.getD v Value.none) ht
    obtain ⟨m, hm⟩ := hstr s
    obtain ⟨n, hn⟩ := hstr t
    rw [hgets, hgett, hm, hn]
    exact .ok trivial

end Cells

section Groups

variable {B : Builtins} {grouped grouped' : Dict (List Row)} {row row' : Row} {rows rows' : List Row}

def GroupAlike (group group' : Str × List Row) : Prop := group.1 = group'.1 ∧ List.Forall₂ RowAlike group.2 group'.2

theorem groupAlike_lookup (h : List.Forall₂ GroupAlike grouped grouped') (key : Str) :
    List.Forall₂ RowAlike ((grouped.lookup key).getD []) ((grouped'.lookup key).getD []) := by
  induction h with
  | nil => exact .nil
  | @cons g g' _ _ hg _ ih =>
    obtain ⟨k, l⟩ := g
    obtain ⟨k', l'⟩ := g'
    obtain ⟨hk, hl⟩ := hg
    obtain rfl : k = k' := hk
    rw [lookup_cons_eq, lookup_cons_eq]
    by_cases hc : key = k
    · rw [if_pos hc, if_pos hc]
      exact hl
    · rw [if_neg hc, if_neg hc]
      exact ih

theorem groupAlike_setItem (h : List.Forall₂ GroupAlike grouped grouped') (key : Str)
    (hrows : List.Forall₂ RowAlike rows rows') :
    List.Forall₂ GroupAlike (setItem key rows grouped) (setItem key rows' grouped') := by
  induction h with
  | nil => exact .cons ⟨rfl, hrows⟩ .nil
  | @cons g g' _ _ hg htail ih =>
    obtain ⟨k, l⟩ := g
    obtain ⟨k', l'⟩ := g'
    obtain ⟨hk, hl⟩ := hg
    obtain rfl : k = k' := hk
    unfold setItem
    split
    · exact .cons ⟨rfl, hrows⟩ htail
    · exact .cons ⟨rfl, hl⟩ ih

theorem groupAlike_foldl (h : List.Forall₂ RowAlike rows rows') (hg : List.Forall₂ GroupAlike grouped grouped') :
    List.Forall₂ GroupAlike (rows.foldl (addToGroup B) grouped) (rows'.foldl (addToGroup B) grouped') := by
  induction h generalizing grouped grouped' with
  | nil => exact hg
  | @cons row row' _ _ hrow _ ih =>
    have hkey : row.get "blocking_session_id".toList = row'.get "blocking_session_id".toList :=
      rowAlike_get_eq hrow (by decide)
    apply ih
    unfold addToGroup
    rw [hkey]
    exact groupAlike_setItem hg _ (List.rel_append (groupAlike_lookup hg _) (.cons hrow .nil))

variable [UnicodeData]

theorem sameOutcome_maxWait (h : List.Forall₂ RowAlike rows rows') :
    SameOutcome (fun _ _ ↦ True) (maxWait B rows) (maxWait B rows') := by
  refine .foldlM h trivial (fun m m' row row' _ hrow ↦ ?_)
  refine (sameOutcome_int hrow _).bind (fun n n' _ ↦ ?_)
  cases n with
  | none =>
    cases n' with
    | none => exact .ok trivial
    | some n' => exact .ok trivial
  | some n =>
    cases n' with
    | none => exact .ok trivial
    | some n' => exact .ok trivial

theorem sameMarkup_chainRow (waits waits' : List (ℤ × Str)) (blocking blocking' : List (ℤ × ℤ)) (row row' : Row) :
    SameMarkup (chainRow B waits blocking row) (chainRow B waits' blocking' row') := by
  unfold chainRow
  dsimp only
  refine .text (.append (.append (.append (.append (.append (.append (.append (.refl _) ?_) ?_) ?_) ?_) ?_) ?_) ?_) _
  · exact sameMarkup_tableCell (.text (.append (.refl _) (sameMarkup_int _ _)) _) _ _
  · exact sameMarkup_tableCell (.refl _) _ _
  · exact sameMarkup_tableCell (.refl _) _ _
  · exact sameMarkup_tableCell (.refl _) _ _
  · exact sameMarkup_tableCell (.refl _) _ _
  · exact sameMarkup_tableCell (.refl _) _ _
  · exact sameMarkup_tableCell (.refl _) _ _

theorem sameOutcome_chainGroup (waits waits' : List (ℤ × Str)) (blocking blocking' : List (ℤ × ℤ))
    {group group' : Str × List Row} (h : GroupAlike group group') :
    SameOutcome SameMarkup (chainGroup B waits blocking group) (chainGroup B waits' blocking' group') := by
  obtain ⟨hkey, hrows⟩ := h
  refine (sameOutcome_maxWait hrows).bind (fun m m' _ ↦ .ok ?_)
  rw [hkey, hrows.length_eq]
  refine .text (.append (.text (.text (.append (.refl _) ?_) _) _) ?_) _
  · exact sameMarkup_esc _ _
  · exact .flatten hrows (fun row row' _ ↦ sameMarkup_chainRow _ _ _ _ _ _)

theorem sameOutcome_chainSection {waiting waiting' : List Row} (h : List.Forall₂ RowAlike rows rows') :
    SameOutcome SameMarkup (htmlChainSection B rows waiting) (htmlChainSection B rows' waiting') := by
  unfold htmlChainSection
  by_cases he : rows = []
  · have he' : rows' = [] := by
      rw [he] at h
      exact List.forall₂_nil_left_iff.mp h
    rw [if_pos he, if_pos he']
    exact .ok (.refl _)
  · have he' : rows' ≠ [] := by
      intro hn
      rw [hn] at h
      exact he (List.forall₂_nil_right_iff.mp h)
    rw [if_neg he, if_neg he']
    refine (SameOutcome.mapM (groupAlike_foldl h .nil) (fun g g' hg ↦ sameOutcome_chainGroup _ _ _ _ hg)).bind
      (fun groups groups' hgroups ↦ .ok ?_)
    refine .text (.append (.refl _) ?_) _
    have hflat := SameMarkup.flatten (f := id) (g := id) hgroups (fun _ _ h ↦ h)
    rwa [List.map_id, List.map_id] at hflat

end Groups

theorem sameMarkup_fullPayload [UnicodeData] {B : Builtins} {x y : DashboardInput} (h : x.Alike y)
    (generatedAt generatedAt' : Str) (cards : List Recommendation) {chain chain' : Str} (hchain : SameMarkup chain chain') :
    SameMarkup (fullPayload B x generatedAt cards chain).html (fullPayload B y generatedAt' cards chain').html := by
  have htable := sameMarkup_sessionsTable (B := B) h.sessions x.headBlockers
  rw [h.headBlockers] at htable
  unfold fullPayload
  dsimp only
  rw [h.headBlockers]
  exact sameMarkup_document h.instanceNumber (sameMarkup_header h _ _) htable hchain rfl (sameMarkup_footer _ _)
    (refreshScript_eq h.refreshUrl)

/-- Inputs that differ only in the contents of strings give pages with the same tags, quotes
and apostrophes, or raise the same exception. -/
theorem buildSessionsDashboardFull_markup [UnicodeData] (B : Builtins) {x y : DashboardInput} (h : x.Alike y)
    (generatedAt generatedAt' : Str) :
    SameOutcome (fun p q ↦ markup p.html = markup q.html) (buildSessionsDashboardFull B x generatedAt)
      (buildSessionsDashboardFull B y generatedAt') := by
  have hflags : SameOutcome (List.Forall₂ Eq) (x.waitingTasks.mapM (isLongWait B)) (y.waitingTasks.mapM (isLongWait B)) := by
    refine .mapM h.waitingTasks (fun row row' hrow ↦ ?_)
    rw [isLongWait_eq hrow]
    cases isLongWait B row' with
    | ok b => exact .ok rfl
    | error e => exact .error e
  refine hflags.bind (fun flags flags' hf ↦
    (sameOutcome_chainSection (rowsAlike_getD h.blockingChains)).bind (fun chain chain' hchain ↦ .ok ?_))
  have hsame : flags = flags' := by simpa only [List.forall₂_eq_eq_eq] using hf
  rw [hsame, h.headBlockers]
  exact sameMarkup_fullPayload h generatedAt generatedAt' _ hchain

def plainBuiltins : Builtins where
  containerText _ := "[]".toList
  objectInt _ := .ok none
  objectExceeds _ _ := .error (typeError "unorderable".toList)

def chainRowOf (sessionId login : Str) : Row :=
  [("session_id".toList, .str sessionId), ("login_name".toList, .str login), ("blocking_session_id".toList, .int 7)]

def sampleInput (sessionId login url : Str) : DashboardInput where
  instanceNumber := 1
  databaseName := login
  sessions := [chainRowOf sessionId login]
  lockChains := []
  tranLocks := []
  waitingTasks := []
  headBlockers := [7]
  blockingChains := some [chainRowOf sessionId login]
  refreshUrl := some ('/' :: url)

theorem buildSessionsDashboardFull_markup_script :
    let _ := asciiData
    SameOutcome (fun p q ↦ markup p.html = markup q.html)
      (buildSessionsDashboardFull plainBuiltins (sampleInput "7".toList "sa".toList "1".toList) "now".toList)
      (buildSessionsDashboardFull plainBuiltins
        (sampleInput "12".toList "<script>alert('x')</script>".toList "\"><b>".toList) "later".toList) := by
  have hid : "session_id".toList ∉ steeringColumns := by decide
  have hlogin : "login_name".toList ∉ steeringColumns := by decide
  have hrow (s t l m : Str) : RowAlike (chainRowOf s l) (chainRowOf t m) :=
    .cons ⟨rfl, .inr ⟨hid, s, t, rfl, rfl⟩⟩ (.cons ⟨rfl, .inr ⟨hlogin, l, m, rfl, rfl⟩⟩
      (.cons ⟨rfl, .inl rfl⟩ .nil))
  have halike (s t l m u v : Str) : (sampleInput s l u).Alike (sampleInput t m v) :=
    ⟨rfl, .cons (hrow s t l m) .nil, rfl, rfl, .nil, rfl, .some (.cons (hrow s t l m) .nil),
      .inr ⟨'/' :: u, '/' :: v, List.cons_ne_nil _ _, List.cons_ne_nil _ _, rfl, rfl⟩⟩
  exact @buildSessionsDashboardFull_markup asciiData plainBuiltins _ _ (halike _ _ _ _ _ _) _ _

end McpSqlServer.DashboardPayloads
