import Mathlib.Data.List.Chain
import Mathlib.Data.List.DropRight

namespace P2pSdk
namespace Foundation

universe u

variable {α : Type u}

/-!
# Lines and words

Text formats of signalling protocols are built by joining and read by
splitting.  A text is a list of letters here: lines end with a pair of letters,
words are separated by a letter of a given kind.  Each reader is shown to undo
the joining, for lines and words that do not contain what they are separated
by.
-/

/-! ## Lines -/

section Lines

variable (first second : α)

/-- No two neighbours are the pair. -/
def PairFree (text : List α) : Prop :=
  text.IsChain fun letter next => ¬ (letter = first ∧ next = second)

variable {first second}

theorem pairFree_iff {text : List α} :
    PairFree first second text <-> ¬ [first, second] <:+: text := by
  rw [PairFree, List.isChain_iff_forall_rel_of_append_cons_cons]
  constructor
  · rintro free ⟨before, after, isText⟩
    exact free (by rw [← isText, List.append_assoc]; rfl) ⟨rfl, rfl⟩
  · rintro free letter next before after isText ⟨isFirst, isSecond⟩
    subst isFirst isSecond
    exact free ⟨before, after, by rw [isText, List.append_assoc]; rfl⟩

/-- A line without the first letter of the pair does not contain the pair. -/
theorem PairFree.of_not_mem {text : List α} (absent : first ∉ text) :
    PairFree first second text := by
  rw [pairFree_iff]
  intro contained
  exact absent (contained.subset List.mem_cons_self)

/-- Texts that do not meet in the pair are free of it together. -/
theorem PairFree.append {left right : List α} (leftFree : PairFree first second left)
    (rightFree : PairFree first second right)
    (between : left.getLast? ≠ some first ∨ right.head? ≠ some second) :
    PairFree first second (left ++ right) := by
  refine List.isChain_append.mpr ⟨leftFree, rightFree, ?_⟩
  rintro last isLast head isHead ⟨isFirst, isSecond⟩
  subst isFirst isSecond
  rcases between with notLast | notHead
  · exact notLast isLast
  · exact notHead isHead

/-- Joining with the pair and closing with it ends every line with it. -/
theorem intercalate_pair_append {lines : List (List α)} (nonempty : lines ≠ []) :
    [first, second].intercalate lines ++ [first, second] =
      lines.flatMap fun line => line ++ [first, second] := by
  induction lines with
  | nil => exact absurd rfl nonempty
  | cons line lines ih =>
      cases lines with
      | nil => simp
      | cons next lines =>
          have rest := ih (List.cons_ne_nil _ _)
          rw [List.intercalate_cons_cons, List.append_assoc, rest]
          rfl

variable [DecidableEq α]

variable (first second) in
/-- Split at every occurrence of the two letters, from the left. -/
def splitAtPair : List α -> List (List α)
  | [] => [[]]
  | [letter] => [[letter]]
  | letter :: next :: rest =>
      if letter = first ∧ next = second then [] :: splitAtPair rest
      else (splitAtPair (next :: rest)).modifyHead (List.cons letter)

theorem splitAtPair_ne_nil (text : List α) : splitAtPair first second text ≠ [] := by
  induction text using splitAtPair.induct first second with
  | case1 => exact List.cons_ne_nil _ _
  | case2 only => exact List.cons_ne_nil _ _
  | case3 head next rest isPair ih =>
      rw [splitAtPair, if_pos isPair]
      exact List.cons_ne_nil _ _
  | case4 head next rest notPair ih =>
      rw [splitAtPair, if_neg notPair]
      rcases List.exists_cons_of_ne_nil ih with ⟨front, pieces, isSplit⟩
      rw [isSplit]
      exact List.cons_ne_nil _ _

/-- A line without the pair is not split. -/
theorem splitAtPair_of_free {line : List α} (free : PairFree first second line) :
    splitAtPair first second line = [line] := by
  induction line with
  | nil => rfl
  | cons letter line ih =>
      have tail := ih free.tail
      cases line with
      | nil => rfl
      | cons next line =>
          have notPair := (List.isChain_cons_cons.mp free).1
          rw [splitAtPair, if_neg notPair, tail]
          rfl

/-- The line before the first occurrence of the pair, where the last letter of
the line and the first of the pair are no pair themselves. -/
theorem splitAtPair_append_of_end {line : List α} (free : PairFree first second line)
    (ends : line.getLast? = some first -> first ≠ second) (rest : List α) :
    splitAtPair first second (line ++ first :: second :: rest) =
      line :: splitAtPair first second rest := by
  induction line with
  | nil => rw [List.nil_append, splitAtPair, if_pos ⟨rfl, rfl⟩]
  | cons letter line ih =>
      cases line with
      | nil =>
          have notPair : ¬ (letter = first ∧ first = second) := by
            rintro ⟨rfl, same⟩
            exact ends rfl same
          have tail := ih free.tail (fun impossible => by cases impossible)
          rw [List.nil_append] at tail
          rw [List.singleton_append, splitAtPair, if_neg notPair, tail]
          rfl
      | cons next line =>
          have tail := ih free.tail (fun isLast => ends (by rw [List.getLast?_cons_cons, isLast]))
          rw [List.cons_append] at tail
          have notPair := (List.isChain_cons_cons.mp free).1
          rw [List.cons_append, List.cons_append, splitAtPair, if_neg notPair, tail]
          rfl

/-- The line before the first occurrence of a pair of two letters. -/
theorem splitAtPair_append (distinct : first ≠ second) {line : List α}
    (free : PairFree first second line) (rest : List α) :
    splitAtPair first second (line ++ first :: second :: rest) =
      line :: splitAtPair first second rest :=
  splitAtPair_append_of_end free (fun _ => distinct) rest

/-- What is split apart is joined to the text again. -/
theorem intercalate_splitAtPair (text : List α) :
    [first, second].intercalate (splitAtPair first second text) = text := by
  induction text using splitAtPair.induct first second with
  | case1 => rfl
  | case2 only => rfl
  | case3 head next rest isPair ih =>
      rcases isPair with ⟨rfl, rfl⟩
      rw [splitAtPair, if_pos ⟨rfl, rfl⟩,
        List.intercalate_cons_of_ne_nil (splitAtPair_ne_nil rest), ih]
      rfl
  | case4 head next rest notPair ih =>
      have nonempty : splitAtPair first second (next :: rest) ≠ [] := splitAtPair_ne_nil _
      rcases List.exists_cons_of_ne_nil nonempty with ⟨front, pieces, isSplit⟩
      rw [isSplit] at ih
      rw [splitAtPair, if_neg notPair, isSplit, ← ih]
      cases pieces with
      | nil => rfl
      | cons piece pieces => rfl

/-- Lines that each end with the pair are split apart; nothing is left after
the last one. -/
theorem splitAtPair_flatMap (distinct : first ≠ second) {lines : List (List α)}
    (free : forall line, line ∈ lines -> PairFree first second line) :
    splitAtPair first second (lines.flatMap fun line => line ++ [first, second]) =
      lines ++ [[]] := by
  induction lines with
  | nil => rfl
  | cons line lines ih =>
      rw [List.flatMap_cons, List.append_assoc]
      have here := splitAtPair_append distinct (free line List.mem_cons_self)
        (lines.flatMap fun line => line ++ [first, second])
      rw [List.cons_append, List.singleton_append, here,
        ih (fun other isLine => free other (List.mem_cons_of_mem line isLine)), List.cons_append]

end Lines

/-! ## Words -/

section Words

variable (space : α -> Bool)

/-- Remove the spaces at both ends. -/
def trimBy (text : List α) : List α := (text.dropWhile space).rdropWhile space

/-- A word is not empty and has no space in it. -/
structure IsWord (word : List α) : Prop where
  nonempty : word ≠ []
  unspaced : forall letter, letter ∈ word -> space letter = false

variable {space}

/-- A first letter that is no space stays in front. -/
theorem trimBy_cons {letter : α} (unspaced : space letter = false) (text : List α) :
    trimBy space (letter :: text) = letter :: text.rdropWhile space := by
  have kept : (letter :: text).dropWhile space = letter :: text := by
    rw [List.dropWhile_cons_of_neg (by rw [unspaced]; decide)]
  rw [trimBy, kept]
  induction text using List.reverseRecOn with
  | nil => simp [unspaced]
  | append_singleton text last ih =>
      rw [← List.cons_append, List.rdropWhile_concat, List.rdropWhile_concat]
      by_cases isSpace : space last = true
      · rw [if_pos isSpace, if_pos isSpace]
        apply ih
        rw [List.dropWhile_cons_of_neg (by rw [unspaced]; decide)]
      · rw [if_neg isSpace, if_neg isSpace, List.cons_append]

/-- A text that begins with a letter that is no space and ends with a word is
trimmed already. -/
theorem trimBy_eq_self {letter : α} (unspaced : space letter = false) (text : List α)
    {word : List α} (isWord : IsWord space word) :
    trimBy space (letter :: (text ++ word)) = letter :: (text ++ word) := by
  rw [trimBy_cons unspaced, List.rdropWhile_eq_self_iff.mpr]
  intro nonempty isSpace
  rw [List.getLast_append_of_right_ne_nil _ _ isWord.nonempty,
    isWord.unspaced _ (List.getLast_mem isWord.nonempty)] at isSpace
  cases isSpace

variable (space) in
/-- The words of a text: what stands between the spaces, where it is not empty. -/
def wordsOf (text : List α) : List (List α) :=
  (text.splitOnP space).filter fun piece => !piece.isEmpty

theorem wordsOf_cons_space {letter : α} (isSpace : space letter = true) (text : List α) :
    wordsOf space (letter :: text) = wordsOf space text := by
  rw [wordsOf, List.splitOnP_cons_eq_if_modifyHead, if_pos isSpace]
  rfl

/-- Spaces in front of a text make no word. -/
theorem wordsOf_append_spaces {gap : List α} (spaces : forall letter, letter ∈ gap -> space letter = true)
    (text : List α) : wordsOf space (gap ++ text) = wordsOf space text := by
  induction gap with
  | nil => rfl
  | cons letter gap ih =>
      rw [List.cons_append, wordsOf_cons_space (spaces letter List.mem_cons_self)]
      exact ih (fun other isMember => spaces other (List.mem_cons_of_mem letter isMember))

theorem wordsOf_spaces {gap : List α} (spaces : forall letter, letter ∈ gap -> space letter = true) :
    wordsOf space gap = [] := by
  have nothing := wordsOf_append_spaces spaces []
  rw [List.append_nil] at nothing
  rw [nothing]
  rfl

theorem IsWord.filter_cons {word : List α} (isWord : IsWord space word) (pieces : List (List α)) :
    ((word :: pieces).filter fun piece => !piece.isEmpty) =
      word :: pieces.filter fun piece => !piece.isEmpty := by
  rw [List.filter_cons, List.isEmpty_eq_false_iff.mpr isWord.nonempty]
  rfl

/-- A word that a space follows is the first word of the text. -/
theorem wordsOf_word_space {word : List α} (isWord : IsWord space word) {letter : α}
    (isSpace : space letter = true) (text : List α) :
    wordsOf space (word ++ letter :: text) = word :: wordsOf space text := by
  rw [wordsOf, List.splitOnP_append_cons_of_forall_mem isWord.unspaced letter isSpace,
    isWord.filter_cons]
  rfl

theorem wordsOf_word {word : List α} (isWord : IsWord space word) : wordsOf space word = [word] := by
  rw [wordsOf, List.splitOnP_eq_singleton isWord.unspaced, isWord.filter_cons]
  rfl

/-- Words with gaps of any kind between them. -/
def joinGaps (gaps : Nat -> List α) : List (List α) -> List α
  | [] => []
  | [word] => word
  | word :: next :: words => word ++ (gaps 0 ++ joinGaps (fun i => gaps (i + 1)) (next :: words))

theorem joinGaps_const (gap : List α) (words : List (List α)) :
    joinGaps (fun _ => gap) words = gap.intercalate words := by
  induction words with
  | nil => rfl
  | cons word words ih =>
      cases words with
      | nil => rw [joinGaps, List.intercalate_singleton]
      | cons next words => rw [joinGaps, ih, List.intercalate_cons_cons, List.append_assoc]

/-- A separator in front of every part but the first. -/
theorem intercalate_cons (gap : α) (word : List α) (words : List (List α)) :
    [gap].intercalate (word :: words) = word ++ (words.map (gap :: ·)).flatten := by
  induction words generalizing word with
  | nil => rw [List.intercalate_singleton, List.map_nil, List.flatten_nil, List.append_nil]
  | cons next words ih =>
      rw [List.intercalate_cons_cons, ih, List.append_assoc]
      rfl

/-- Words are found whatever spaces stand between them and around them. -/
theorem wordsOf_joinGaps {words : List (List α)} (areWords : forall word, word ∈ words -> IsWord space word)
    {gaps : Nat -> List α} (separate : forall i, gaps i ≠ [])
    (spaces : forall i letter, letter ∈ gaps i -> space letter = true) {trail : List α}
    (blank : forall letter, letter ∈ trail -> space letter = true) :
    wordsOf space (joinGaps gaps words ++ trail) = words := by
  induction words generalizing gaps with
  | nil => exact wordsOf_spaces blank
  | cons word words ih =>
      have isWord := areWords word List.mem_cons_self
      cases words with
      | nil =>
          rw [joinGaps]
          cases trail with
          | nil => rw [List.append_nil, wordsOf_word isWord]
          | cons letter trail =>
              rw [wordsOf_word_space isWord (blank letter List.mem_cons_self),
                wordsOf_spaces fun other isMember => blank other (List.mem_cons_of_mem letter isMember)]
      | cons next words =>
          have rest := ih (fun other isElement => areWords other (List.mem_cons_of_mem word isElement))
            (fun i => separate (i + 1)) (fun i => spaces (i + 1))
          rcases List.exists_cons_of_ne_nil (separate 0) with ⟨letter, gap, isGap⟩
          have first := spaces 0
          rw [isGap] at first
          rw [joinGaps, isGap, List.append_assoc, List.cons_append, List.cons_append,
            wordsOf_word_space isWord (first letter List.mem_cons_self), List.append_assoc,
            wordsOf_append_spaces fun other isMember => first other (List.mem_cons_of_mem letter isMember),
            rest]

/-- Joined words end with the last one. -/
theorem intercalate_ends (gap : List α) {words : List (List α)} (nonempty : words ≠ []) :
    exists front, gap.intercalate words = front ++ words.getLast nonempty := by
  induction words with
  | nil => exact absurd rfl nonempty
  | cons word words ih =>
      cases words with
      | nil => exact ⟨[], by rw [List.intercalate_singleton]; rfl⟩
      | cons next words =>
          obtain ⟨front, ends⟩ := ih (List.cons_ne_nil _ _)
          refine ⟨word ++ (gap ++ front), ?_⟩
          rw [List.intercalate_cons_cons, ends, List.getLast_cons (List.cons_ne_nil _ _)]
          simp only [List.append_assoc]

/-- A first part that is a word begins the joined text. -/
theorem head?_intercalate (gap : List α) {word : List α} (nonempty : word ≠ []) (words : List (List α)) :
    (gap.intercalate (word :: words)).head? = word.head? := by
  cases words with
  | nil => rw [List.intercalate_singleton]
  | cons next words =>
      rw [List.intercalate_cons_cons, List.append_assoc, List.head?_append_of_ne_nil _ nonempty]

/-- Words that do not contain the gap are joined without a double gap. -/
theorem pairFree_intercalate {gap : α} {words : List (List α)}
    (areWords : forall word, word ∈ words -> word ≠ [] ∧ gap ∉ word) :
    PairFree gap gap ([gap].intercalate words) := by
  induction words with
  | nil => exact List.isChain_nil
  | cons word words ih =>
      rcases areWords word List.mem_cons_self with ⟨_, absent⟩
      cases words with
      | nil =>
          rw [List.intercalate_singleton]
          exact PairFree.of_not_mem absent
      | cons next words =>
          have later : forall other, other ∈ next :: words -> other ≠ [] ∧ gap ∉ other :=
            fun other isElement => areWords other (List.mem_cons_of_mem word isElement)
          rcases later next List.mem_cons_self with ⟨nonempty, absentNext⟩
          have opens : ([gap].intercalate (next :: words)).head? ≠ some gap := by
            rw [head?_intercalate [gap] nonempty words]
            intro isHead
            exact absentNext (List.mem_of_mem_head? isHead)
          have closes : PairFree gap gap (word ++ [gap]) := by
            refine (PairFree.of_not_mem absent).append (List.isChain_singleton gap) (Or.inl ?_)
            intro isLast
            exact absent (List.mem_of_getLast? isLast)
          rw [List.intercalate_cons_cons]
          exact closes.append (ih later) (Or.inr opens)

/-- Joined words do not end with the gap. -/
theorem getLast?_intercalate_ne {gap : α} {words : List (List α)}
    (areWords : forall word, word ∈ words -> word ≠ [] ∧ gap ∉ word) :
    ([gap].intercalate words).getLast? ≠ some gap := by
  intro isLast
  cases words with
  | nil => cases isLast
  | cons word words =>
      rcases intercalate_ends [gap] (List.cons_ne_nil word words) with ⟨front, ends⟩
      rcases areWords _ (List.getLast_mem (List.cons_ne_nil word words)) with ⟨nonempty, absent⟩
      rw [ends, List.getLast?_append_of_ne_nil _ nonempty] at isLast
      exact absent (List.mem_of_getLast? isLast)

theorem mem_intercalate {gap : List α} {letter : α} {words : List (List α)}
    (isMember : letter ∈ gap.intercalate words) :
    letter ∈ gap ∨ exists word, word ∈ words ∧ letter ∈ word := by
  induction words with
  | nil => cases isMember
  | cons word words ih =>
      cases words with
      | nil =>
          rw [List.intercalate_singleton] at isMember
          exact Or.inr ⟨word, List.mem_cons_self, isMember⟩
      | cons next words =>
          rw [List.intercalate_cons_cons, List.mem_append, List.mem_append] at isMember
          rcases isMember with (here | inGap) | later
          · exact Or.inr ⟨word, List.mem_cons_self, here⟩
          · exact Or.inl inGap
          · rcases ih later with inGap | ⟨other, isElement, inOther⟩
            · exact Or.inl inGap
            · exact Or.inr ⟨other, List.mem_cons_of_mem word isElement, inOther⟩

end Words

/-- A partial reading of every element keeps their number. -/
theorem length_of_mapM {β : Type u} {f : α -> Option β} {list : List α} {values : List β}
    (isValues : list.mapM f = some values) : values.length = list.length := by
  induction list generalizing values with
  | nil =>
      cases isValues
      rfl
  | cons head tail ih =>
      rw [List.mapM_cons] at isValues
      obtain ⟨value, _, rest⟩ := Option.bind_eq_some_iff.mp isValues
      obtain ⟨others, isOthers, same⟩ := Option.bind_eq_some_iff.mp rest
      cases same
      rw [List.length_cons, List.length_cons, ih isOthers]

/-- A list that is read element by element is readable at every element. -/
theorem exists_of_mapM {β : Type u} {f : α -> Option β} {list : List α} {values : List β}
    (isValues : list.mapM f = some values) {element : α} (isMember : element ∈ list) :
    exists value, f element = some value := by
  induction list generalizing values with
  | nil => cases isMember
  | cons head tail ih =>
      rw [List.mapM_cons] at isValues
      rcases Option.bind_eq_some_iff.mp isValues with ⟨value, isValue, rest⟩
      rcases Option.bind_eq_some_iff.mp rest with ⟨others, isOthers, _⟩
      rcases List.mem_cons.mp isMember with rfl | later
      · exact ⟨value, isValue⟩
      · exact ih isOthers later

end Foundation
end P2pSdk
