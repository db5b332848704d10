import Toolchain.Command
import Toolchain.Proofs.LinkLine.Directories
import Toolchain.Proofs.Text.Fields

/-!
# Link lines on two streams

A driver may show its link line on either stream, and the two streams are joined as they are
before the line is read. Without quotes a link line is read word by word, so the only words
that joining can change are the last one of the first stream and the first one of the second:
if no blank stands between them they become one word.

## Main statements

  * `words_append` — the words of two texts, if no word goes across the place where they meet.
  * `linkArgs_eq_words` — without quotes the scanner reads words.
  * `linkDirs_combined` — the directories of the joined streams, and when they are those of
    the two streams.
-/

namespace Toolchain

namespace Text

/-! ## Words of two texts -/

/-- No word goes across the place where two texts meet: the first one ends with a blank, the
second one begins with a blank, or one of them is empty. -/
def Apart (s t : List Char) : Prop :=
  (∀ c, s.getLast? = some c → isBlank c = true) ∨ Ended t

theorem words_append_blank {b : Char} (hb : isBlank b = true) (s t : List Char) :
    words (s ++ b :: t) = words s ++ words t := fields_append_cons hb s t

theorem words_blank_cons {b : Char} (hb : isBlank b = true) (t : List Char) :
    words (b :: t) = words t := fields_cons hb t

theorem words_append {s t : List Char} (h : Apart s t) : words (s ++ t) = words s ++ words t := by
  rcases h with hlast | hfirst
  · rcases List.eq_nil_or_concat s with rfl | ⟨s, b, rfl⟩
    · rfl
    · have hb : isBlank b = true := hlast b (by simp)
      rw [List.concat_eq_append, List.append_assoc, List.singleton_append,
        words_append_blank hb, words_append_blank hb, words_nil, List.append_nil]
  · cases t with
    | nil => rw [words_nil, List.append_nil, List.append_nil]
    | cons b t =>
      have hb : isBlank b = true := hfirst b rfl
      rw [words_append_blank hb, words_blank_cons hb]

theorem words_eq_singleton {w : List Char} (h : IsWord w) : words w = [w] :=
  fields_eq_singleton h.1 h.2

/-! ## The place where two texts meet -/

/-- The word with which a text ends; empty if it ends with a blank. -/
def lastWord (s : List Char) : List Char := (s.reverse.takeWhile fun c => !isBlank c).reverse

/-- A text without the word with which it ends. -/
def beforeLast (s : List Char) : List Char := (s.reverse.dropWhile fun c => !isBlank c).reverse

/-- The word with which a text begins; empty if it begins with a blank. -/
def firstWord (s : List Char) : List Char := s.takeWhile fun c => !isBlank c

/-- A text without the word with which it begins. -/
def afterFirst (s : List Char) : List Char := s.dropWhile fun c => !isBlank c

theorem beforeLast_append_lastWord (s : List Char) : beforeLast s ++ lastWord s = s := by
  unfold beforeLast lastWord
  rw [← List.reverse_append, List.takeWhile_append_dropWhile, List.reverse_reverse]

theorem firstWord_append_afterFirst (s : List Char) : firstWord s ++ afterFirst s = s :=
  List.takeWhile_append_dropWhile

theorem ended_afterFirst (s : List Char) : Ended (afterFirst s) := fun c hc => by
  simpa using head_dropWhile (p := fun c => !isBlank c) c hc

theorem apart_beforeLast (s t : List Char) : Apart (beforeLast s) t :=
  .inl fun c hc => by
    unfold beforeLast at hc
    rw [List.getLast?_reverse] at hc
    simpa using head_dropWhile (p := fun c => !isBlank c) c hc

end Text

/-! ## Texts without quotes -/

/-- A word without quotes as a token. -/
def LinkToken.ofWord (w : List Char) : LinkToken :=
  match w with
  | ['-', 'L'] => .lone
  | '-' :: 'L' :: d => .bare (String.ofList d)
  | w => .word (String.ofList w)

namespace LinkToken

open Text

theorem chars_ofWord (w : List Char) : (ofWord w).chars = w := by
  unfold ofWord
  split
  · rfl
  · simp [chars]
  · simp [chars]

theorem proper_ofWord {w : List Char} (hw : IsWord w) (hquote : '"' ∉ w) :
    (ofWord w).Proper := by
  unfold ofWord
  split
  next => trivial
  next d hd =>
    refine ⟨by simpa using hd, fun c hc => ?_⟩
    rw [String.toList_ofList] at hc
    have hmem : c ∈ '-' :: 'L' :: d := List.mem_cons_of_mem _ (List.mem_cons_of_mem _ hc)
    exact ⟨hw.2 c hmem, fun hc => hquote (hc ▸ hmem)⟩
  next w hlone hbare =>
    simp only [Proper, String.toList_ofList]
    refine ⟨hw, ?_, ?_⟩
    · rintro ⟨d, rfl⟩
      exact hbare d rfl
    · rintro ⟨d, rfl⟩
      exact hquote (by simp)

end LinkToken

namespace Text

/-- Without quotes the scanner reads word by word. -/
theorem linkArgs_eq_words {s : List Char} (hquote : '"' ∉ s) :
    linkArgs true s = (words s).filterMap fun w => (LinkToken.ofWord w).dir?.map String.toList := by
  induction hn : s.length using Nat.strongRecOn generalizing s with
  | ind n ih =>
    cases s with
    | nil => exact linkArgs_nil true
    | cons c cs =>
      by_cases hc : isBlank c = true
      · have hcs : '"' ∉ cs := fun h => hquote (List.mem_cons_of_mem c h)
        have hblank : ∀ b ∈ [c], isBlank b = true := by simpa using hc
        rw [words_blank_cons hc, ← ih cs.length (by simp [← hn]) hcs rfl]
        exact linkArgs_blanks hblank cs
      · -- the first word is a token, and what follows it is shorter
        have hsplit := firstWord_append_afterFirst (c :: cs)
        have hended := ended_afterFirst (c :: cs)
        have hfirst : firstWord (c :: cs) = c :: firstWord cs := by simp [firstWord, hc]
        have hword : IsWord (firstWord (c :: cs)) :=
          ⟨by rw [hfirst]; simp, fun d hd => by simpa using List.mem_takeWhile_imp hd⟩
        rw [← hsplit] at hquote hn ⊢
        rw [List.mem_append, not_or] at hquote
        have hlength : (afterFirst (c :: cs)).length < n := by
          rw [← hn, hfirst, List.length_append, List.length_cons]
          omega
        have htoken := LinkToken.linkArgs_token (LinkToken.proper_ofWord hword hquote.1) hended
        rw [LinkToken.chars_ofWord] at htoken
        rw [htoken, ih _ hlength hquote.2 rfl, words_append (.inr hended),
          words_eq_singleton hword, List.singleton_append, List.filterMap_cons]
        cases (LinkToken.ofWord (firstWord (c :: cs))).dir? <;> rfl

end Text

/-! ## Directories -/

/-- The directories that the words of a text name, normalized. -/
def wordDirs (output : String) : List Path :=
  (Text.words output.toList).filterMap fun w =>
    (LinkToken.ofWord w).dir?.map fun d => (Path.mk d).normalize

/-- Without quotes a text names what its words name. -/
theorem mem_linkDirs_iff_words {output : String} (hquote : '"' ∉ output.toList) {p : Path} :
    p ∈ linkDirs output ↔ p ∈ wordDirs output ∧ isSystemDir p = false := by
  have hdirs : namedDirs output = wordDirs output := by
    unfold namedDirs wordDirs
    rw [Text.linkArgs_eq_words hquote, List.map_filterMap]
    congr 1
    funext w
    rw [Option.map_map]
    congr 1
    funext d
    simp
  rw [mem_linkDirs, hdirs, ← isSystemDir_iff, Bool.not_eq_true]

/-- Where no word goes across, two texts without quotes name together what each of them
names. -/
theorem mem_linkDirs_append {s t : String} (hs : '"' ∉ s.toList) (ht : '"' ∉ t.toList)
    (h : Text.Apart s.toList t.toList) {p : Path} :
    p ∈ linkDirs (s ++ t) ↔ p ∈ linkDirs s ∨ p ∈ linkDirs t := by
  have hst : '"' ∉ (s ++ t).toList := by simp [hs, ht]
  have hdirs : wordDirs (s ++ t) = wordDirs s ++ wordDirs t := by
    unfold wordDirs
    rw [String.toList_append, Text.words_append h, List.filterMap_append]
  rw [mem_linkDirs_iff_words hs, mem_linkDirs_iff_words ht, mem_linkDirs_iff_words hst, hdirs,
    List.mem_append, or_and_right]

/-! ## Streams -/

namespace CommandOutput

/-- The first stream without the word with which it ends. -/
def beforeSeam (o : CommandOutput) : String := String.ofList (Text.beforeLast o.stdout.toList)

/-- The word with which the first stream ends; empty after a blank. -/
def leftOfSeam (o : CommandOutput) : String := String.ofList (Text.lastWord o.stdout.toList)

/-- The word with which the second stream begins; empty before a blank. -/
def rightOfSeam (o : CommandOutput) : String := String.ofList (Text.firstWord o.stderr.toList)

/-- The second stream without the word with which it begins. -/
def afterSeam (o : CommandOutput) : String := String.ofList (Text.afterFirst o.stderr.toList)

variable (o : CommandOutput)

theorem stdout_eq_seam : o.stdout = o.beforeSeam ++ o.leftOfSeam := by
  rw [← String.toList_inj, String.toList_append]
  simp [beforeSeam, leftOfSeam, Text.beforeLast_append_lastWord]

theorem stderr_eq_seam : o.stderr = o.rightOfSeam ++ o.afterSeam := by
  rw [← String.toList_inj, String.toList_append]
  simp [rightOfSeam, afterSeam, Text.firstWord_append_afterFirst]

theorem apart_beforeSeam (t : List Char) : Text.Apart o.beforeSeam.toList t := by
  unfold beforeSeam
  rw [String.toList_ofList]
  exact Text.apart_beforeLast _ t

theorem apart_afterSeam (s : List Char) : Text.Apart s o.afterSeam.toList := by
  unfold afterSeam
  rw [String.toList_ofList]
  exact .inr (Text.ended_afterFirst _)

/-- Of output without quotes only the words at the seam are read differently when the streams
are joined. The joined streams name what stands before these words, what stands after them,
and what the one word that they make names. So they name the directories of both streams, no
more and no less, exactly if that word names the same directories as its two halves, those
aside that are named elsewhere; in particular if there is a blank at the seam, or one of the
streams is empty. -/
theorem linkDirs_combined (hout : '"' ∉ o.stdout.toList) (herr : '"' ∉ o.stderr.toList) :
    (∀ p, p ∈ linkDirs o.combined ↔
      p ∈ linkDirs o.beforeSeam ∨ p ∈ linkDirs (o.leftOfSeam ++ o.rightOfSeam) ∨
        p ∈ linkDirs o.afterSeam) ∧
    ((∀ p, p ∈ linkDirs o.combined ↔ p ∈ linkDirs o.stdout ∨ p ∈ linkDirs o.stderr) ↔
      ∀ p, p ∉ linkDirs o.beforeSeam → p ∉ linkDirs o.afterSeam →
        (p ∈ linkDirs (o.leftOfSeam ++ o.rightOfSeam) ↔
          p ∈ linkDirs o.leftOfSeam ∨ p ∈ linkDirs o.rightOfSeam)) ∧
    (Text.Apart o.stdout.toList o.stderr.toList →
      ∀ p, p ∈ linkDirs o.combined ↔ p ∈ linkDirs o.stdout ∨ p ∈ linkDirs o.stderr) := by
  have hall := fun p => mem_linkDirs_append (p := p) hout herr
  rw [stdout_eq_seam, String.toList_append, List.mem_append, not_or] at hout
  rw [stderr_eq_seam, String.toList_append, List.mem_append, not_or] at herr
  obtain ⟨hbefore, hleft⟩ := hout
  obtain ⟨hright, hafter⟩ := herr
  have hacross : '"' ∉ (o.leftOfSeam ++ o.rightOfSeam).toList := by simp [hleft, hright]
  have hstdout : ∀ p, p ∈ linkDirs o.stdout ↔
      p ∈ linkDirs o.beforeSeam ∨ p ∈ linkDirs o.leftOfSeam := fun p => by
    conv_lhs => rw [stdout_eq_seam]
    exact mem_linkDirs_append hbefore hleft (o.apart_beforeSeam _)
  have hstderr : ∀ p, p ∈ linkDirs o.stderr ↔
      p ∈ linkDirs o.rightOfSeam ∨ p ∈ linkDirs o.afterSeam := fun p => by
    conv_lhs => rw [stderr_eq_seam]
    exact mem_linkDirs_append hright hafter (o.apart_afterSeam _)
  have hcombined : ∀ p, p ∈ linkDirs o.combined ↔
      p ∈ linkDirs o.beforeSeam ∨ p ∈ linkDirs (o.leftOfSeam ++ o.rightOfSeam) ∨
        p ∈ linkDirs o.afterSeam := fun p => by
    have hsplit : o.combined =
        o.beforeSeam ++ ((o.leftOfSeam ++ o.rightOfSeam) ++ o.afterSeam) := by
      unfold combined
      conv_lhs => rw [stdout_eq_seam, stderr_eq_seam]
      simp only [String.append_assoc]
    have htail : '"' ∉ ((o.leftOfSeam ++ o.rightOfSeam) ++ o.afterSeam).toList := by
      simp [hleft, hright, hafter]
    rw [hsplit, mem_linkDirs_append hbefore htail (o.apart_beforeSeam _),
      mem_linkDirs_append hacross hafter (o.apart_afterSeam _)]
  refine ⟨hcombined, ?_, fun h p => hall p h⟩
  simp only [hcombined, hstdout, hstderr]
  refine forall_congr' fun p => ?_
  by_cases hb : p ∈ linkDirs o.beforeSeam
  · simp only [hb, true_or, not_true_eq_false, false_implies]
  · by_cases ha : p ∈ linkDirs o.afterSeam
    · simp only [ha, or_true, not_true_eq_false, false_implies, implies_true]
    · simp only [hb, ha, false_or, or_false, not_false_eq_true, true_implies]

/-- Streams that meet within a word that is no argument. -/
def meetingInWord : CommandOutput := ⟨some 1, "ld -L/opt/a err", "or: -L/opt/b\n"⟩

/-- There the joined streams name the directories of both. -/
theorem linkDirs_combined_in_word :
    '"' ∉ meetingInWord.stdout.toList ∧ '"' ∉ meetingInWord.stderr.toList ∧
      ¬Text.Apart meetingInWord.stdout.toList meetingInWord.stderr.toList ∧
      ∀ p, p ∈ linkDirs meetingInWord.combined ↔
        p ∈ linkDirs meetingInWord.stdout ∨ p ∈ linkDirs meetingInWord.stderr := by
  have hout : '"' ∉ meetingInWord.stdout.toList := by decide
  have herr : '"' ∉ meetingInWord.stderr.toList := by decide
  have hnone : ∀ output : String, '"' ∉ output.toList → wordDirs output = [] →
      ∀ p, p ∉ linkDirs output := fun output hquote hdirs p h => by
    rw [mem_linkDirs_iff_words hquote, hdirs] at h
    cases h.1
  have hleft := hnone meetingInWord.leftOfSeam (by decide) (by decide)
  have hright := hnone meetingInWord.rightOfSeam (by decide) (by decide)
  have hacross := hnone (meetingInWord.leftOfSeam ++ meetingInWord.rightOfSeam)
    (by decide) (by decide)
  refine ⟨hout, herr, ?_, (linkDirs_combined meetingInWord hout herr).2.1.2 fun p _ _ => ?_⟩
  · rintro (h | h)
    · exact absurd (h 'r' (by decide)) (by decide)
    · exact absurd (h 'o' (by decide)) (by decide)
  · simp only [hleft, hright, hacross, or_self]

/-- Streams that meet between two arguments without a blank. -/
def meetingAtArgument : CommandOutput := ⟨some 0, "ld -L/opt/a", "-L/opt/b\n"⟩

/-- There both directories are lost, and one is read that neither stream names. -/
theorem directories_lost_at_seam :
    ('"' ∉ meetingAtArgument.stdout.toList ∧ '"' ∉ meetingAtArgument.stderr.toList) ∧
      (Path.mk "/opt/a" ∈ linkDirs meetingAtArgument.stdout ∧
        Path.mk "/opt/b" ∈ linkDirs meetingAtArgument.stderr ∧
        Path.mk "/opt/a" ∉ linkDirs meetingAtArgument.combined ∧
        Path.mk "/opt/b" ∉ linkDirs meetingAtArgument.combined) ∧
      (Path.mk "/opt/a-L/opt/b" ∈ linkDirs meetingAtArgument.combined ∧
        Path.mk "/opt/a-L/opt/b" ∉ linkDirs meetingAtArgument.stdout ∧
        Path.mk "/opt/a-L/opt/b" ∉ linkDirs meetingAtArgument.stderr) := by
  have hout : '"' ∉ meetingAtArgument.stdout.toList := by decide
  have herr : '"' ∉ meetingAtArgument.stderr.toList := by decide
  have hboth : '"' ∉ meetingAtArgument.combined.toList := by decide
  simp only [mem_linkDirs_iff_words hout, mem_linkDirs_iff_words herr,
    mem_linkDirs_iff_words hboth]
  decide

end CommandOutput

end Toolchain
