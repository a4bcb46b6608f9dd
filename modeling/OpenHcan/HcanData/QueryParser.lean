import OpenHcan.HcanData.QueryLanguage

/-!
# QueryParser — which strings compile

The language of the queries is stated without the compiler: every word is a
known one or a decimal number that fits the 24 bits of an operand. The
compiler knows no bad word: it skips what it does not know, cuts a number to
24 bits and refuses a program that fills the code block to the last cell
(`compileQuery_language_iff`).
-/

namespace OpenHcan.HcanData

/-- A word of the language. -/
def KnownWord (word : List Char) : Prop :=
  (isNumber word = true ∧ decimal word < 2 ^ 24) ∨ word ∈ keywords.map Prod.fst

instance (word : List Char) : Decidable (KnownWord word) :=
  inferInstanceAs (Decidable (_ ∨ _))

/-- A string all of whose words are words of the language. -/
def InLanguage (query : List Char) : Prop := ∀ word ∈ queryWords query, KnownWord word

instance (query : List Char) : Decidable (InLanguage query) :=
  inferInstanceAs (Decidable (∀ word ∈ queryWords query, KnownWord word))

/-- The code words and the terminator have room in the code block. -/
def FitsCodeBlock (query : List Char) : Prop := (queryWords query).length + 1 ≤ codeSize

/-- The block holds one code word for each word, and the terminator behind them. -/
def OneCodeWordEach (longMax : Nat) (query : List Char) (code : Nat → UInt32) : Prop :=
  (∀ i word, (queryWords query)[i]? = some word → codeWord longMax word = some (code i))
    ∧ code (queryWords query).length = 0

/-- The compiler takes the strings of the language that fit the code block,
word by word, and refuses all others. -/
def CompilesLanguage (longMax : Nat) (cells : Nat → UInt32) (query : List Char) : Prop :=
  match compileQuery longMax cells query with
  | .ok code => InLanguage query ∧ FitsCodeBlock query ∧ OneCodeWordEach longMax query code
  | .error _ => ¬ (InLanguage query ∧ FitsCodeBlock query)

theorem lookup_vocabulary :
    ∀ word ∈ keywords.map Prod.fst, (vocabulary.lookup word).isSome = true := by decide

/-- A word of the language has a token. -/
theorem KnownWord.token {word : List Char} (h : KnownWord word) :
    ∃ t, parseWord word = some t := by
  rw [parseWord]
  split
  · exact ⟨_, rfl⟩
  · next hnumber =>
      rcases h with ⟨hdigits, -⟩ | hkey
      · exact absurd hdigits hnumber
      · exact Option.isSome_iff_exists.1 (lookup_vocabulary word hkey)

/-- The tokens of a string of the language stand at the places of its words. -/
theorem InLanguage.tokens {query : List Char} (h : InLanguage query) :
    (queryWords query).map parseWord = (queryTokens query).map some := by
  rw [queryTokens]
  rw [InLanguage] at h
  generalize queryWords query = words at h
  induction words with
  | nil => rfl
  | cons word words ih =>
      obtain ⟨t, ht⟩ := (h word (by simp)).token
      have hrest := ih fun w hw => h w (by simp [hw])
      rw [List.map_cons, List.filterMap_cons_some ht, List.map_cons, ht, hrest]

theorem InLanguage.length_tokens {query : List Char} (h : InLanguage query) :
    (queryTokens query).length = (queryWords query).length := by
  have := congrArg List.length h.tokens
  simpa using this.symm

/-- The compiler, without the object around it. -/
theorem compileQuery_spec (longMax : Nat) (cells : Nat → UInt32) (query : List Char) :
    match compileQuery longMax cells query with
    | .ok code =>
        (queryTokens query).length ≤ 126
          ∧ Loaded code 0 ((queryTokens query).map (Token.code longMax))
          ∧ code (queryTokens query).length = 0
    | .error _ => 127 ≤ (queryTokens query).length := by
  have hspec := dataQuery_spec longMax cells (fun _ => 0) query
  rw [dataQuery] at hspec
  cases hc : compileQuery longMax cells query with
  | ok code =>
      simp only [hc] at hspec
      exact ⟨hspec.1, hspec.2.1.loaded, hspec.2.1.nop⟩
  | error e =>
      simp only [hc] at hspec
      exact hspec.2

/-- A string of the language is compiled word by word. -/
theorem InLanguage.oneCodeWordEach {longMax : Nat} {query : List Char} {code : Nat → UInt32}
    (h : InLanguage query) (hloaded : Loaded code 0 ((queryTokens query).map (Token.code longMax)))
    (hnop : code (queryTokens query).length = 0) : OneCodeWordEach longMax query code := by
  constructor
  · intro i word hi
    have htoken := congrArg (·[i]?) h.tokens
    simp only [List.getElem?_map, hi, Option.map_some] at htoken
    obtain ⟨t, ht, hword⟩ := Option.map_eq_some_iff.1 htoken.symm
    have hcell := hloaded i (t.code longMax) (by simp [ht])
    rw [codeWord_eq, ← hword, Option.map_some, ← hcell, Nat.zero_add]
  · rw [← h.length_tokens]
    exact hnop

/-- **The language of the compiler**: it is the one of the words unless the
program has exactly 127 words; a string with a bad word is refused only for
its length. -/
theorem compileQuery_language_iff (longMax : Nat) (cells : Nat → UInt32) (query : List Char) :
    CompilesLanguage longMax cells query
      ↔ (InLanguage query ∧ (queryWords query).length ≠ 127)
        ∨ (¬ InLanguage query ∧ 127 ≤ (queryTokens query).length) := by
  have hspec := compileQuery_spec longMax cells query
  rw [CompilesLanguage]
  by_cases hlang : InLanguage query
  · have hlength := hlang.length_tokens
    simp only [hlang, true_and, not_true_eq_false, false_and, or_false]
    cases hc : compileQuery longMax cells query with
    | ok code =>
        rw [hc] at hspec
        obtain ⟨hshort, hloaded, hnop⟩ := hspec
        constructor
        · intro _
          omega
        · intro _
          exact ⟨by rw [FitsCodeBlock, codeSize]; omega, hlang.oneCodeWordEach hloaded hnop⟩
    | error e =>
        rw [hc] at hspec
        simp only [FitsCodeBlock, codeSize] at hspec ⊢
        omega
  · simp only [hlang, false_and, not_false_eq_true, true_and, false_or]
    cases hc : compileQuery longMax cells query with
    | ok code =>
        rw [hc] at hspec
        have hshort := hspec.1
        simp only [false_iff]
        omega
    | error e =>
        rw [hc] at hspec
        simpa using hspec

/-- `foo` is no word of the language, but `src foo` compiles like `src`. -/
theorem compileQuery_skips_foo :
    ¬ CompilesLanguage (2 ^ 63 - 1) (fun _ => 0) "src foo".toList := by
  have hspec := compileQuery_spec (2 ^ 63 - 1) (fun _ => 0) "src foo".toList
  have hlang : ¬ InLanguage "src foo".toList := by decide
  rw [CompilesLanguage]
  cases hc : compileQuery (2 ^ 63 - 1) (fun _ => 0) "src foo".toList with
  | ok code =>
      simp only [hlang, false_and, not_false_eq_true]
  | error e =>
      rw [hc] at hspec
      have hshort : (queryTokens "src foo".toList).length = 1 := by decide
      simp only [hshort] at hspec
      omega

end OpenHcan.HcanData
