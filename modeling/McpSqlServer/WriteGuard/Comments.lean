import McpSqlServer.WriteGuard.Batches

namespace McpSqlServer

open Library.Text Library.Python Library.Sql

theorem dropBlockComments_cons {c : Char} (hc : c ≠ '/') (s : Str) :
    dropBlockComments false (c :: s) = c :: dropBlockComments false s := by
  cases s with
  | nil => rfl
  | cons d s => rw [dropBlockComments, if_neg Bool.false_ne_true, if_neg (fun h ↦ hc h.1)]

theorem dropLineComments_cons {c : Char} (hc : c ≠ '-') (s : Str) :
    dropLineComments false (c :: s) = c :: dropLineComments false s := by
  cases s with
  | nil => rfl
  | cons d s => rw [dropLineComments, if_neg (fun h ↦ hc h.1)]

theorem dropBlockComments_append {w rest : Str} (h : hasPair '/' '*' (w ++ rest.take 1) = false) :
    dropBlockComments false (w ++ rest) = w ++ dropBlockComments false rest := by
  induction w with
  | nil => rfl
  | cons c w ih =>
    obtain ⟨hc, hw⟩ := hasPair_cons_false h
    have ih := ih hw
    cases w with
    | nil =>
      cases rest with
      | nil => rfl
      | cons d rest =>
        have hne : ¬ (c = '/' ∧ d = '*' ∧ hasPair '*' '/' rest) := fun hcd ↦ hc ⟨hcd.1, congrArg some hcd.2.1⟩
        rw [List.singleton_append, dropBlockComments, if_neg Bool.false_ne_true, if_neg hne]
        rfl
    | cons d w =>
      have hne : ¬ (c = '/' ∧ d = '*' ∧ hasPair '*' '/' (w ++ rest)) := fun hcd ↦ hc ⟨hcd.1, congrArg some hcd.2.1⟩
      rw [List.cons_append, List.cons_append, dropBlockComments, if_neg Bool.false_ne_true, if_neg hne,
        ← List.cons_append, ih]
      rfl

theorem dropLineComments_append {w rest : Str} (h : hasPair '-' '-' (w ++ rest.take 1) = false) :
    dropLineComments false (w ++ rest) = w ++ dropLineComments false rest := by
  induction w with
  | nil => rfl
  | cons c w ih =>
    obtain ⟨hc, hw⟩ := hasPair_cons_false h
    have ih := ih hw
    cases w with
    | nil =>
      cases rest with
      | nil => rfl
      | cons d rest =>
        have hne : ¬ (c = '-' ∧ d = '-') := fun hcd ↦ hc ⟨hcd.1, congrArg some hcd.2⟩
        rw [List.singleton_append, dropLineComments, if_neg hne]
        rfl
    | cons d w =>
      have hne : ¬ (c = '-' ∧ d = '-') := fun hcd ↦ hc ⟨hcd.1, congrArg some hcd.2⟩
      rw [List.cons_append, List.cons_append, dropLineComments, if_neg hne, ← List.cons_append, ih]
      rfl

theorem dropBlockComments_closer {body s : Str} (h : hasPair '*' '/' (body ++ ['*']) = false) :
    dropBlockComments true (body ++ '*' :: '/' :: s) = dropBlockComments false s := by
  induction body with
  | nil => rw [List.nil_append, dropBlockComments, if_pos rfl, if_pos ⟨rfl, rfl⟩]
  | cons c body ih =>
    obtain ⟨hc, hb⟩ := hasPair_cons_false h
    have ih := ih hb
    cases body with
    | nil =>
      have hne : ¬ (c = '*' ∧ '*' = '/') := fun hcd ↦ absurd hcd.2 (by decide)
      rw [List.cons_append, List.nil_append, dropBlockComments, if_pos rfl, if_neg hne]
      exact ih
    | cons d body =>
      have hne : ¬ (c = '*' ∧ d = '/') := fun hcd ↦ hc ⟨hcd.1, congrArg some hcd.2⟩
      rw [List.cons_append, List.cons_append, dropBlockComments, if_pos rfl, if_neg hne]
      exact ih

theorem dropLineComments_newline {body s : Str} (h : '\n' ∉ body) :
    dropLineComments true (body ++ '\n' :: s) = '\n' :: dropLineComments false s := by
  induction body with
  | nil => rw [List.nil_append, dropLineComments, if_pos rfl]
  | cons c body ih =>
    rw [List.mem_cons, not_or] at h
    rw [List.cons_append, dropLineComments, if_neg (Ne.symm h.1), ih h.2]

theorem dropLineComments_end {body : Str} (h : '\n' ∉ body) : dropLineComments true body = [] := by
  induction body with
  | nil => rfl
  | cons c body ih =>
    rw [List.mem_cons, not_or] at h
    rw [dropLineComments, if_neg (Ne.symm h.1), ih h.2]

theorem mem_of_mem_dropBlockComments : ∀ (inside : Bool) (s : Str) {c : Char},
    c ∈ dropBlockComments inside s → c ∈ s
  | _, [], _, h => h
  | inside, [d], c, h => by
    cases inside with
    | false => exact h
    | true => cases h
  | true, d :: e :: s, c, h => by
    rw [dropBlockComments, if_pos rfl] at h
    split at h
    · exact List.mem_cons_of_mem _ (List.mem_cons_of_mem _ (mem_of_mem_dropBlockComments false s h))
    · exact List.mem_cons_of_mem _ (mem_of_mem_dropBlockComments true (e :: s) h)
  | false, d :: e :: s, c, h => by
    rw [dropBlockComments, if_neg Bool.false_ne_true] at h
    split at h
    · exact List.mem_cons_of_mem _ (List.mem_cons_of_mem _ (mem_of_mem_dropBlockComments true s h))
    · rcases List.mem_cons.mp h with rfl | h
      · exact List.mem_cons_self
      · exact List.mem_cons_of_mem _ (mem_of_mem_dropBlockComments false (e :: s) h)

def dropComments (s : Str) : Str := dropLineComments false (dropBlockComments false s)

theorem dropComments_lineEnd {body : Str} (h : '\n' ∉ body) : dropComments ('-' :: '-' :: body) = [] := by
  have hb : '\n' ∉ dropBlockComments false body := fun hm ↦ h (mem_of_mem_dropBlockComments false body hm)
  rw [dropComments, dropBlockComments_cons (by decide), dropBlockComments_cons (by decide), dropLineComments,
    if_pos ⟨rfl, rfl⟩, dropLineComments_end hb]

theorem hasPair_concat {a b : Char} (hab : a ≠ b) {s : Str} (h : hasPair a b s = false) : hasPair a b (s ++ [a]) = false := by
  induction s with
  | nil => exact hasPair_cons (fun hc ↦ absurd hc.2 (by simp)) rfl
  | cons c s ih =>
    obtain ⟨hc, hs⟩ := hasPair_cons_false h
    refine hasPair_cons (fun hcd ↦ hc ⟨hcd.1, ?_⟩) (ih hs)
    cases s with
    | nil => exact absurd (Option.some.inj hcd.2) hab
    | cons d s => exact hcd.2

theorem hasPair_append_of_concat {a : Char} {w : Str} (h : hasPair a a (w ++ [a]) = false) (t : Str) :
    hasPair a a (w ++ t.take 1) = false := by
  induction w with
  | nil =>
    cases t with
    | nil => rfl
    | cons d t => exact hasPair_cons (fun hd ↦ absurd hd.2 (by simp)) rfl
  | cons c w ih =>
    obtain ⟨hc, hw⟩ := hasPair_cons_false h
    refine hasPair_cons (fun hcd ↦ ?_) (ih hw)
    cases w with
    | nil => exact hc ⟨hcd.1, rfl⟩
    | cons d w => exact hc hcd

theorem dropBlockComments_of_unclosed {s : Str} (h : hasPair '*' '/' s = false) : dropBlockComments false s = s := by
  induction s with
  | nil => rfl
  | cons c s ih =>
    obtain ⟨-, hs⟩ := hasPair_cons_false h
    cases s with
    | nil => rfl
    | cons d s =>
      have hne : ¬ (c = '/' ∧ d = '*' ∧ hasPair '*' '/' s) := by
        intro hcd
        rw [(hasPair_cons_false hs).2] at hcd
        cases hcd.2.2
      rw [dropBlockComments, if_neg Bool.false_ne_true, if_neg hne, ih hs]

theorem dropBlockComments_open {body : Str} (h : hasPair '*' '/' body = false) :
    dropBlockComments false ('/' :: '*' :: body) = '/' :: dropBlockComments false ('*' :: body) := by
  have hne : ¬ ('/' = '/' ∧ '*' = '*' ∧ hasPair '*' '/' body = true) := by
    intro hb
    rw [h] at hb
    cases hb.2.2
  rw [dropBlockComments, if_neg Bool.false_ne_true, if_neg hne]

theorem dropBlockComments_block {body : Str} (h : hasPair '*' '/' (body ++ ['*']) = false) (s : Str) :
    dropBlockComments false ('/' :: '*' :: (body ++ '*' :: '/' :: s)) = dropBlockComments false s := by
  rw [dropBlockComments, if_neg Bool.false_ne_true, if_pos ⟨rfl, rfl, hasPair_self body s⟩, dropBlockComments_closer h]

theorem replaceComments_block {body : Str} (hc : hasPair '*' '/' (body ++ ['*']) = false)
    (ho : hasPair '/' '*' (body ++ ['*']) = false) (s : Str) :
    replaceComments ('/' :: '*' :: (body ++ '*' :: '/' :: s)) = ' ' :: replaceComments s := by
  rw [replaceComments, replaceFrom, if_neg (by decide), if_pos ⟨rfl, rfl⟩, replaceFrom_block hc ho]
  rfl

/-- Every block comment that opens in a line comment ends in it, or never; `s` is the text behind the line. -/
inductive BlocksStay (s : Str) : Str → Prop
  | free {body : Str} : hasPair '/' '*' body = false → BlocksStay s body
  | unclosed {front body : Str} : hasPair '/' '*' front = false → hasPair '*' '/' (body ++ '\n' :: s) = false →
      BlocksStay s (front ++ '/' :: '*' :: body)
  | closed {front inner back : Str} : hasPair '/' '*' front = false → hasPair '*' '/' (inner ++ ['*']) = false →
      BlocksStay s back → BlocksStay s (front ++ '/' :: '*' :: (inner ++ '*' :: '/' :: back))

theorem BlocksStay.dropBlockComments_eq {body s : Str} (h : BlocksStay s body) (hn : '\n' ∉ body) :
    ∃ kept, '\n' ∉ kept ∧
      dropBlockComments false (body ++ '\n' :: s) = kept ++ '\n' :: dropBlockComments false s := by
  have hfront : ∀ {front t : Str}, hasPair '/' '*' front = false →
      dropBlockComments false (front ++ '/' :: t) = front ++ dropBlockComments false ('/' :: t) :=
    fun hf ↦ dropBlockComments_append (hasPair_concat (by decide) hf)
  induction h with
  | @free body hb =>
    refine ⟨body, hn, ?_⟩
    have hf : hasPair '/' '*' (body ++ ('\n' :: s).take 1) = false := by
      rw [List.take_succ_cons, hasPair_append_cons (by decide) (by decide), hb]
      rfl
    rw [dropBlockComments_append hf, dropBlockComments_cons (by decide)]
  | @unclosed front body hf hc =>
    have hs : hasPair '*' '/' s = false := by
      rw [hasPair_append_cons (by decide) (by decide)] at hc
      exact (Bool.or_eq_false_iff.mp hc).2
    refine ⟨front ++ '/' :: '*' :: body, hn, ?_⟩
    rw [List.append_assoc, List.cons_append, List.cons_append, hfront hf, dropBlockComments_open hc,
      dropBlockComments_cons (by decide), dropBlockComments_of_unclosed hc, dropBlockComments_of_unclosed hs,
      List.append_assoc]
    rfl
  | @closed front inner back hf hc _ ih =>
    rw [List.mem_append, List.mem_cons, List.mem_cons, List.mem_append, List.mem_cons, List.mem_cons] at hn
    obtain ⟨kept, hk, he⟩ := ih (fun h ↦ hn (.inr (.inr (.inr (.inr (.inr (.inr h)))))))
    refine ⟨front ++ kept, ?_, ?_⟩
    · rw [List.mem_append, not_or]
      exact ⟨fun h ↦ hn (.inl h), hk⟩
    · rw [List.append_assoc, List.cons_append, List.cons_append, List.append_assoc, List.cons_append, List.cons_append,
        hfront hf, dropBlockComments_block hc, he, List.append_assoc]

theorem dropComments_line {body s : Str} (h : '\n' ∉ body) (hb : BlocksStay s body) :
    dropComments ('-' :: '-' :: (body ++ '\n' :: s)) = '\n' :: dropComments s := by
  obtain ⟨kept, hk, he⟩ := hb.dropBlockComments_eq h
  rw [dropComments, dropBlockComments_cons (by decide), dropBlockComments_cons (by decide), he, dropLineComments,
    if_pos ⟨rfl, rfl⟩, dropLineComments_newline hk]
  rfl

theorem dropComments_block {body : Str} (h : hasPair '*' '/' (body ++ ['*']) = false) (s : Str) :
    dropComments ('/' :: '*' :: (body ++ '*' :: '/' :: s)) = dropComments s := by
  rw [dropComments, dropBlockComments_block h]
  rfl

theorem slash_notMem_of_mem_writeVerbs : ∀ v ∈ writeVerbs, '/' ∉ v := by decide

theorem dropComments_word {w rest : Str} (hf : CommentFree (w ++ rest.take 1))
    (hr : (dropBlockComments false rest).take 1 = rest.take 1) : dropComments (w ++ rest) = w ++ dropComments rest := by
  have hl : hasPair '-' '-' (w ++ (dropBlockComments false rest).take 1) = false := by rw [hr]; exact hf.1
  rw [dropComments, dropBlockComments_append hf.2, dropLineComments_append hl]
  rfl

/-- The text is spaces and comments that both scans read alike, then `t`. -/
inductive Leads [UnicodeData] : Str → Str → Prop
  | refl (t : Str) : Leads t t
  | space {c : Char} {s t : Str} : isSpace c = true → Leads s t → Leads (c :: s) t
  | line {body s t : Str} : '\n' ∉ body → BlocksStay s body → Leads s t → Leads ('-' :: '-' :: (body ++ '\n' :: s)) t
  | block {body s t : Str} : hasPair '*' '/' (body ++ ['*']) = false → hasPair '/' '*' (body ++ ['*']) = false →
      Leads s t → Leads ('/' :: '*' :: (body ++ '*' :: '/' :: s)) t

/-- The text is empty or one comment to its end, or starts with a word that no block comment touches. -/
inductive WordClear [UnicodeData] : Str → Prop
  | nil : WordClear []
  | line {body : Str} : '\n' ∉ body → WordClear ('-' :: '-' :: body)
  | block {body : Str} : hasPair '*' '/' body = false → WordClear ('/' :: '*' :: body)
  | word {w rest : Str} : w ≠ [] → (∀ c ∈ w, isSpace c = false) → CommentFree (w ++ rest.take 1) →
      (∀ c ∈ rest.head?, isSpace c = true) → WordClear (w ++ rest)
  | wordLine {w rest : Str} : w ≠ [] → (∀ c ∈ w, isSpace c = false) → CommentFree (w ++ ['-']) →
      WordClear (w ++ '-' :: '-' :: rest)

/-- Every comment up to the end of the first word is one that both scans read alike, and no block comment touches it. -/
def FirstWordClear [UnicodeData] (s : Str) : Prop := ∃ t, Leads s t ∧ WordClear t

section UnicodeData

variable [UnicodeData] {policy : RuntimePolicy} {toolName : Str} {s : Str}

theorem firstToken_cons_of_isSpace {c : Char} (hc : isSpace c = true) (s : Str) : firstToken (c :: s) = firstToken s := by
  have hb : Blank [c] := fun d hd ↦ by rwa [List.mem_singleton.mp hd]
  exact firstToken_append_of_blank hb s

theorem firstToken_word {w rest : Str} (hne : w ≠ []) (hw : ∀ c ∈ w, isSpace c = false)
    (hr : ∀ c ∈ rest.head?, isSpace c = true) : firstToken (w ++ rest) = w :=
  TokenSplit.firstToken_eq ⟨⟨[], rfl, fun _ hc ↦ absurd hc List.not_mem_nil⟩, hw, hr⟩ hne

theorem isSpace_head?_dropLine (s : Str) : ∀ c ∈ (dropLineComments true s).head?, isSpace c = true := by
  induction s with
  | nil =>
    intro c hc
    cases hc
  | cons d s ih =>
    rw [dropLineComments]
    split
    · rename_i hd
      intro c hc
      rw [← Option.some.inj hc, hd]
      rfl
    · exact ih

theorem ne_of_isSpace {c d : Char} (hc : isSpace c = true) (hd : isSpace d = false) : c ≠ d := by
  intro h
  rw [h, hd] at hc
  cases hc

theorem startsWithVerb_space {c : Char} (hc : isSpace c = true) (s : Str) :
    StartsWithVerb (c :: s) ↔ StartsWithVerb s := by
  rw [startsWithVerb_iff, startsWithVerb_iff, firstToken_cons_of_isSpace hc]

theorem not_startsWithVerb_openBlock {body : Str} (h : hasPair '*' '/' body = false) :
    ¬ StartsWithVerb (dropComments ('/' :: '*' :: body)) := by
  rw [dropComments, dropBlockComments_open h, dropLineComments_cons (by decide), startsWithVerb_iff, firstToken,
    lstrip_cons_of_not_isSpace rfl, List.takeWhile_cons_of_pos rfl]
  intro hv
  refine slash_notMem_of_mem_writeVerbs _ hv (List.mem_flatMap.mpr ⟨'/', List.mem_cons_self, ?_⟩)
  exact List.mem_singleton_self _

theorem startsWithVerb_word_iff {w rest t : Str} (hne : w ≠ []) (hw : ∀ c ∈ w, isSpace c = false)
    (hr : ∀ c ∈ rest.head?, isSpace c = true) (ht : ∀ c ∈ t.head?, isSpace c = true) :
    StartsWithVerb (w ++ rest) ↔ StartsWithVerb (w ++ t) := by
  rw [startsWithVerb_iff, startsWithVerb_iff, firstToken_word hne hw hr, firstToken_word hne hw ht]

theorem Leads.startsWithVerb_iff {t : Str} (h : Leads s t) :
    (StartsWithVerb (dropComments s) ↔ StartsWithVerb (dropComments t)) ∧
      (StartsWithVerb (replaceComments s) ↔ StartsWithVerb (replaceComments t)) := by
  have hblank : isSpace ' ' = true := rfl
  have hnewline : isSpace '\n' = true := rfl
  induction h with
  | refl t => exact ⟨Iff.rfl, Iff.rfl⟩
  | @space c s t hc _ ih =>
    have hslash : c ≠ '/' := ne_of_isSpace hc rfl
    have hdash : c ≠ '-' := ne_of_isSpace hc rfl
    have hcode : dropComments (c :: s) = c :: dropComments s := by
      rw [dropComments, dropBlockComments_cons hslash, dropLineComments_cons hdash]
      rfl
    have hsql : replaceComments (c :: s) = c :: replaceComments s := replaceFrom_code_cons hdash hslash s
    rw [hcode, hsql, startsWithVerb_space hc, startsWithVerb_space hc]
    exact ih
  | @line body s t h hb _ ih =>
    rw [dropComments_line h hb, replaceComments, replaceFrom, if_pos ⟨rfl, rfl⟩, replaceFrom_line h,
      startsWithVerb_space hnewline, startsWithVerb_space hblank, startsWithVerb_space hnewline]
    exact ih
  | @block body s t hc ho _ ih =>
    rw [dropComments_block hc, replaceComments_block hc ho, startsWithVerb_space hblank]
    exact ih

theorem WordClear.startsWithVerb_iff (h : WordClear s) :
    StartsWithVerb (dropComments s) ↔ StartsWithVerb (replaceComments s) := by
  have hblank : isSpace ' ' = true := rfl
  cases h with
  | nil => exact Iff.rfl
  | @line body h =>
    rw [dropComments_lineEnd h, replaceComments, replaceFrom, if_pos ⟨rfl, rfl⟩, replaceFrom_line_end h,
      startsWithVerb_space hblank]
  | @block body h =>
    have hsql : ¬ StartsWithVerb [] := fun hv ↦ nil_notMem_writeVerbs (McpSqlServer.startsWithVerb_iff.mp hv)
    rw [replaceComments, replaceFrom, if_neg (by decide), if_pos ⟨rfl, rfl⟩, replaceFrom_block_open 0 body h,
      startsWithVerb_space hblank]
    exact iff_of_false (not_startsWithVerb_openBlock h) hsql
  | @word w rest hne hw hf hr =>
    cases rest with
    | nil =>
      rw [dropComments_word hf rfl, replaceComments, replaceFrom_code_append hf]
      exact Iff.rfl
    | cons c rest =>
      have hc := hr c rfl
      have hslash : c ≠ '/' := ne_of_isSpace hc rfl
      have hdash : c ≠ '-' := ne_of_isSpace hc rfl
      have hblock : dropBlockComments false (c :: rest) = c :: dropBlockComments false rest :=
        dropBlockComments_cons hslash rest
      have htake : (dropBlockComments false (c :: rest)).take 1 = (c :: rest).take 1 := by rw [hblock]; rfl
      rw [dropComments_word hf htake, replaceComments, replaceFrom_code_append hf, dropComments, hblock,
        dropLineComments_cons hdash, replaceFrom_code_cons hdash hslash]
      exact startsWithVerb_word_iff hne hw hr hr
  | @wordLine w rest hne hw hf =>
    have hblock : dropBlockComments false ('-' :: '-' :: rest) = '-' :: '-' :: dropBlockComments false rest := by
      rw [dropBlockComments_cons (by decide), dropBlockComments_cons (by decide)]
    have htake : (dropBlockComments false ('-' :: '-' :: rest)).take 1 = ('-' :: '-' :: rest).take 1 := by
      rw [hblock]; rfl
    rw [dropComments_word hf htake, replaceComments, replaceFrom_code_append hf, dropComments, hblock,
      dropLineComments, replaceFrom, if_pos ⟨rfl, rfl⟩, if_pos ⟨rfl, rfl⟩]
    refine startsWithVerb_word_iff hne hw (isSpace_head?_dropLine _) (fun c hc ↦ ?_)
    rw [← Option.some.inj hc]
    exact hblank

/-- What the code reads on in the same word behind a deleted comment. -/
def joinedOn (rest : Str) : Str := (dropComments rest).takeWhile (fun c ↦ !isSpace c)

/-- The first word ends at a block comment that both scans end in the same place. -/
structure WordTouched (s w rest : Str) : Prop where
  leads : ∃ body, Leads s (w ++ '/' :: '*' :: (body ++ '*' :: '/' :: rest)) ∧
    hasPair '*' '/' (body ++ ['*']) = false ∧ hasPair '/' '*' (body ++ ['*']) = false
  ne_nil : w ≠ []
  word : ∀ c ∈ w, isSpace c = false
  free : CommentFree (w ++ ['-'])

theorem WordTouched.startsWithVerb_iff {w rest : Str} (h : WordTouched s w rest) :
    (StartsWithVerb (dropComments s) ↔ upper (w ++ joinedOn rest) ∈ writeVerbs) ∧
      (StartsWithVerb (replaceComments s) ↔ upper w ∈ writeVerbs) := by
  obtain ⟨body, hlead, hclose, hopen⟩ := h.leads
  have hblocks : hasPair '/' '*' (w ++ ['/']) = false := by
    have hw := h.free.2
    rw [hasPair_append_cons (by decide) (by decide)] at hw
    exact hasPair_concat (by decide) (Bool.or_eq_false_iff.mp hw).1
  have hlines : ∀ t : Str, hasPair '-' '-' (w ++ t.take 1) = false := hasPair_append_of_concat h.free.1
  have hcode : dropComments (w ++ '/' :: '*' :: (body ++ '*' :: '/' :: rest)) = w ++ dropComments rest := by
    rw [dropComments, dropBlockComments_append hblocks, dropBlockComments_block hclose, dropLineComments_append (hlines _)]
    rfl
  have hsql : replaceComments (w ++ '/' :: '*' :: (body ++ '*' :: '/' :: rest)) = w ++ ' ' :: replaceComments rest := by
    have hfree : CommentFree (w ++ ('/' :: '*' :: (body ++ '*' :: '/' :: rest)).take 1) := ⟨hlines ['/'], hblocks⟩
    rw [replaceComments, replaceFrom_code_append hfree]
    exact congrArg (w ++ ·) (replaceComments_block hclose hopen rest)
  constructor
  · rw [hlead.startsWithVerb_iff.1, hcode, McpSqlServer.startsWithVerb_iff, firstToken_append h.ne_nil h.word]
    rfl
  · rw [hlead.startsWithVerb_iff.2, hsql, McpSqlServer.startsWithVerb_iff, firstToken_append h.ne_nil h.word,
      List.takeWhile_cons_of_neg Bool.false_ne_true, List.append_nil]

theorem enforce_eq_iff (hmode : policy.writeModeDefault = "deny".toList) (hp : policy.blockedSqlPatterns = [])
    (htool : toolName ∉ policy.allowedWriteTools) (s t : Str) :
    enforce policy toolName s = enforce policy toolName t ↔ (firstVerb s ∈ writeVerbs ↔ firstVerb t ∈ writeVerbs) := by
  unfold enforce
  simp only [hp, hmode, htool, List.any_nil, Bool.false_eq_true, if_false, not_false_eq_true, and_true, true_and]
  by_cases hs : firstVerb s ∈ writeVerbs
  · by_cases ht : firstVerb t ∈ writeVerbs
    · simp only [hs, ht, if_true]
    · simp only [hs, ht, if_true, if_false, reduceCtorEq, iff_false, not_true_eq_false]
  · by_cases ht : firstVerb t ∈ writeVerbs
    · simp only [hs, ht, if_true, if_false, reduceCtorEq, iff_true]
    · simp only [hs, ht, if_false]

/-- The verdict ignores comments where those up to the end of the first word are read alike and no block comment
touches the word. At a block comment that does, it does so exactly if the word and what the code makes of it are both
write verbs or neither is. -/
theorem enforce_replaceComments (policy : RuntimePolicy) (toolName s : Str)
    (hmode : policy.writeModeDefault = "deny".toList) (hp : policy.blockedSqlPatterns = [])
    (htool : toolName ∉ policy.allowedWriteTools) :
    (FirstWordClear s → enforce policy toolName s = enforce policy toolName (replaceComments s)) ∧
      ∀ w rest, WordTouched s w rest →
        (enforce policy toolName s = enforce policy toolName (replaceComments s) ↔
          (upper (w ++ joinedOn rest) ∈ writeVerbs ↔ upper w ∈ writeVerbs)) := by
  have hcode : firstVerb s ∈ writeVerbs ↔ StartsWithVerb (dropComments s) := by
    rw [startsWithVerb_iff, firstVerb, firstToken_strip]
    rfl
  have hsql : firstVerb (replaceComments s) ∈ writeVerbs ↔ StartsWithVerb (replaceComments s) := by
    rw [startsWithVerb_iff, firstVerb_of_free (replaceComments_free s)]
  rw [enforce_eq_iff hmode hp htool, hcode, hsql]
  constructor
  · rintro ⟨t, hlead, hclear⟩
    rw [hlead.startsWithVerb_iff.1, hlead.startsWithVerb_iff.2]
    exact hclear.startsWithVerb_iff
  · intro w rest htouched
    rw [htouched.startsWithVerb_iff.1, htouched.startsWithVerb_iff.2]

end UnicodeData

def undeniedPolicy : RuntimePolicy where
  writeModeDefault := "deny".toList
  allowedWriteTools := [primaryExecProc, secondaryExecProc]

def commentedInsert : Str :=
  '/' :: '*' :: (" load ".toList ++ '*' :: '/' :: ' ' :: ("INSERT".toList ++ " INTO dbo.T VALUES (1)".toList))

def joinedInsert : Str := "INSERT/**/INTO dbo.T VALUES (1)".toList

theorem enforce_replaceComments_leading_block :
    let _ := asciiData
    enforce undeniedPolicy selectTool commentedInsert =
      enforce undeniedPolicy selectTool (replaceComments commentedInsert) ∧
    (enforce undeniedPolicy selectTool joinedInsert = enforce undeniedPolicy selectTool (replaceComments joinedInsert) ↔
      (upper ("INSERT".toList ++ joinedOn "INTO dbo.T VALUES (1)".toList) ∈ writeVerbs ↔
        upper "INSERT".toList ∈ writeVerbs)) := by
  intro U
  have hword : WordClear ("INSERT".toList ++ " INTO dbo.T VALUES (1)".toList) :=
    .word (by decide) (by decide) (by decide) (by decide)
  have hclear : FirstWordClear commentedInsert := ⟨_, .block rfl rfl (.space rfl (.refl _)), hword⟩
  have htouched : WordTouched joinedInsert "INSERT".toList "INTO dbo.T VALUES (1)".toList :=
    ⟨⟨[], .refl _, rfl, rfl⟩, by decide, by decide, by decide⟩
  exact ⟨(enforce_replaceComments undeniedPolicy selectTool commentedInsert rfl rfl (by decide)).1 hclear,
    (enforce_replaceComments undeniedPolicy selectTool joinedInsert rfl rfl (by decide)).2 _ _ htouched⟩

theorem enforce_misses_joined_verb :
    ¬ ∀ [UnicodeData] (policy : RuntimePolicy) (toolName s : Str), policy.writeModeDefault = "deny".toList →
      policy.blockedSqlPatterns = [] → toolName ∉ policy.allowedWriteTools →
      enforce policy toolName s = enforce policy toolName (replaceComments s) := by
  intro h
  let _ := asciiData
  have hs := h undeniedPolicy selectTool joinedInsert rfl rfl (by decide)
  have hcode : enforce undeniedPolicy selectTool joinedInsert = .ok () := by decide
  have hsql : enforce undeniedPolicy selectTool (replaceComments joinedInsert) ≠ .ok () := by
    decide
  exact hsql (hs.symm.trans hcode)

end McpSqlServer
