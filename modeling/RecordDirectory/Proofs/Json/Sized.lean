import RecordDirectory.Keyed.Lemmas
import RecordDirectory.Proofs.Binary64.Finite
import RecordDirectory.Wire.Record

namespace RecordDirectory

/-!
# Sizes of what is read

A character of a string takes at least one character of the text, so that no string that is read is longer than
the text around it.  A binary number that is read is finite.  Both hold of a value however deep it is nested in
what was read (`Json.bounded_of_read?`).

Input values come as the text of an object.  A text that can stand in memory has fewer characters than 64 bits
count, and then each of its values is of such a size, too (`RawValues.sized_of_read?`).
-/

namespace Json

/-- Strings and binary numbers as there can be. -/
def Sized : Json → Prop
  | string s => s.toList.length < signedBound
  | float x => x.Finite
  | null | bool _ | integer _ | array _ | object _ => True

/-- No string in a value has more than `n` characters, and its binary numbers are finite. -/
inductive Bounded (n : Nat) : Json → Prop
  | null : Bounded n .null
  | bool (b : Bool) : Bounded n (.bool b)
  | integer (k : Int) : Bounded n (.integer k)
  | float {x : Binary64} (finite : x.Finite) : Bounded n (.float x)
  | string {s : String} (fits : s.toList.length ≤ n) : Bounded n (.string s)
  | array {items : List Json} (each : ∀ item ∈ items, Bounded n item) : Bounded n (.array items)
  | object {members : List (String × Json)} (each : ∀ member ∈ members, Bounded n member.2) :
      Bounded n (.object members)

theorem Bounded.sized {n : Nat} {value : Json} (bounded : Bounded n value) (fits : n < signedBound) :
    value.Sized := by
  cases bounded with
  | string length => exact Nat.lt_of_le_of_lt length fits
  | float finite => exact finite
  | null | bool | integer | array | object => trivial

/-! ## Blanks and strings -/

theorem length_skipSpace_le (cs : List Char) : (skipSpace cs).length ≤ cs.length :=
  (List.dropWhile_sublist _).length_le

theorem length_of_skipSpace {c : Char} {cs rest : List Char} (found : skipSpace cs = c :: rest) :
    rest.length < cs.length := by
  have bound := length_skipSpace_le cs
  rwa [found] at bound

theorem length_of_readUnit? {cs rest : List Char} {n : Nat} (found : readUnit? cs = some (n, rest)) :
    rest.length < cs.length := by
  unfold readUnit? at found
  split at found
  · simp only [Option.bind_eq_bind, Option.bind_eq_some_iff] at found
    rcases found with ⟨_, _, _, _, _, _, _, _, same⟩
    cases same
    simp only [List.length_cons]
    omega
  · cases found

theorem length_of_readNumbered? {cs rest : List Char} {c : Char}
    (found : readNumbered? cs = some (c, rest)) : rest.length < cs.length := by
  unfold readNumbered? at found
  rcases Option.bind_eq_some_iff.mp found with ⟨⟨high, behind⟩, first, found⟩
  have shorter := length_of_readUnit? first
  dsimp only at found
  split at found
  · split at found
    · rcases Option.bind_eq_some_iff.mp found with ⟨⟨low, last⟩, second, found⟩
      have later := length_of_readUnit? second
      dsimp only at found
      split at found
      · rw [← (Prod.mk.inj (Option.some.inj found)).2]
        simp only [List.length_cons] at shorter
        omega
      · cases found
    · cases found
  · split at found
    · cases found
    · cases found
      exact shorter

theorem length_of_readCharacter? {cs rest : List Char} {c : Char}
    (found : readCharacter? cs = some (c, rest)) : rest.length < cs.length := by
  unfold readCharacter? at found
  split at found
  · have shorter := length_of_readNumbered? found
    simp only [List.length_cons]
    omega
  · rcases Option.map_eq_some_iff.mp found with ⟨_, _, same⟩
    cases same
    simp only [List.length_cons]
    omega
  · split at found
    · cases found
    · cases found
      exact Nat.lt_succ_self _
  · cases found

/-- Every character that is read takes at least one. -/
theorem length_of_readStringRest {fuel : Nat} {cs text rest : List Char}
    (found : readStringRest fuel cs = some (text, rest)) : text.length + rest.length ≤ cs.length := by
  fun_induction readStringRest fuel cs generalizing text rest with
  | case1 => cases found
  | case2 =>
      cases found
      simp
  | case3 fuel cs unended inductionHypothesis =>
      rcases Option.bind_eq_some_iff.mp found with ⟨⟨c, behind⟩, first, found⟩
      rcases Option.bind_eq_some_iff.mp found with ⟨⟨later, last⟩, others, same⟩
      cases same
      have shorter := length_of_readCharacter? first
      have bound := inductionHypothesis behind others
      rw [List.length_cons]
      omega

theorem length_of_readString? {cs rest : List Char} {s : String} (found : readString? cs = some (s, rest)) :
    s.toList.length + rest.length ≤ cs.length := by
  unfold readString? at found
  split at found
  · rcases Option.map_eq_some_iff.mp found with ⟨⟨text, behind⟩, read, same⟩
    cases same
    have bound := length_of_readStringRest read
    rw [String.toList_ofList, List.length_cons]
    omega
  · cases found

/-! ## Words and numbers -/

theorem length_of_expect? {word cs rest : List Char} (found : expect? word cs = some rest) :
    rest.length ≤ cs.length := by
  induction word generalizing cs with
  | nil =>
      cases found
      exact Nat.le_refl _
  | cons c word inductionHypothesis =>
      cases cs with
      | nil => cases found
      | cons d cs =>
          rw [expect?] at found
          split at found
          · exact Nat.le_succ_of_le (inductionHypothesis found)
          · cases found

theorem word_of_expect? {word cs rest : List Char} {a value : Json}
    (found : ((expect? word cs).map fun rest => (a, rest)) = some (value, rest)) :
    a = value ∧ rest.length ≤ cs.length := by
  rcases Option.map_eq_some_iff.mp found with ⟨last, read, same⟩
  cases same
  exact ⟨rfl, length_of_expect? read⟩

theorem length_spanDigits_le (cs : List Char) : (spanDigits cs).2.length ≤ cs.length :=
  (List.dropWhile_sublist _).length_le

theorem length_of_readFraction? {cs rest : List Char} {digits : Option (List Char)}
    (found : readFraction? cs = some (digits, rest)) : rest.length ≤ cs.length := by
  unfold readFraction? at found
  split at found
  · next later =>
    have bound := length_spanDigits_le later
    split at found
    · cases found
    · next span =>
      rw [span] at bound
      cases found
      exact Nat.le_succ_of_le bound
  · cases found
    exact Nat.le_refl _

theorem length_of_readExponent? {cs rest : List Char} {exponent : Option Int}
    (found : readExponent? cs = some (exponent, rest)) : rest.length ≤ cs.length := by
  unfold readExponent? at found
  split at found
  · next later =>
    split at found
    · split at found
      next negative digits signed =>
      have behindSign : digits.length ≤ later.length := by
        split at signed <;> cases signed <;> simp
      have bound := length_spanDigits_le digits
      split at found
      · cases found
      · next span =>
        rw [span] at bound
        cases found
        exact Nat.le_succ_of_le (Nat.le_trans bound behindSign)
    · cases found
      exact Nat.le_refl _
  · cases found
    exact Nat.le_refl _

/-! ## Values -/

/-- From at most `n` characters, a reader leaves no more than these and reads what is admitted. -/
def Reads {α : Type} (n : Nat) (admitted : α → Prop) (reader : List Char → Option (α × List Char)) : Prop :=
  ∀ {cs a rest}, cs.length ≤ n → reader cs = some (a, rest) → rest.length ≤ n ∧ admitted a

theorem reads_readNumber? (n : Nat) : Reads n (Bounded n) readNumber? := by
  intro cs value rest short found
  unfold readNumber? at found
  split at found
  next negative later signed =>
  have behindSign : later.length ≤ cs.length := by
    split at signed <;> cases signed <;> simp
  have behindDigits := length_spanDigits_le later
  rcases Option.ite_none_right_eq_some.mp found with ⟨_, found⟩
  rcases Option.bind_eq_some_iff.mp found with ⟨⟨fraction, behind⟩, first, found⟩
  rcases Option.bind_eq_some_iff.mp found with ⟨⟨exponent, last⟩, second, found⟩
  rcases Option.bind_eq_some_iff.mp found with ⟨number, read, same⟩
  have behindFraction : behind.length ≤ (spanDigits later).2.length := length_of_readFraction? first
  have behindExponent := length_of_readExponent? second
  cases same
  refine ⟨by omega, ?_⟩
  rcases Binary64.finite_of_numberOf? read with ⟨k, rfl⟩ | ⟨x, rfl, finite⟩
  · exact .integer k
  · exact .float finite

theorem reads_readItems? {n : Nat} {item : List Char → Option (Json × List Char)}
    (reads : Reads n (Bounded n) item) (fuel : Nat) :
    Reads n (fun items => ∀ value ∈ items, Bounded n value) (readItems? item fuel) := by
  induction fuel with
  | zero =>
      intro _ _ _ _ found
      cases found
  | succ fuel inductionHypothesis =>
      intro cs items rest short found
      rw [readItems?] at found
      rcases Option.bind_eq_some_iff.mp found with ⟨⟨value, behind⟩, first, found⟩
      rcases reads short first with ⟨left, bounded⟩
      dsimp only at found
      split at found
      · next comma =>
        have fewer := length_of_skipSpace comma
        rcases Option.bind_eq_some_iff.mp found with ⟨⟨values, last⟩, others, same⟩
        cases same
        rcases inductionHypothesis (by omega) others with ⟨left, each⟩
        exact ⟨left, List.forall_mem_cons.mpr ⟨bounded, each⟩⟩
      · next ended =>
        have fewer := length_of_skipSpace ended
        cases found
        exact ⟨by omega, List.forall_mem_singleton.mpr bounded⟩
      · cases found

theorem reads_readMember? {n : Nat} {item : List Char → Option (Json × List Char)}
    (reads : Reads n (Bounded n) item) : Reads n (fun member => Bounded n member.2) (readMember? item) := by
  intro cs member rest short found
  rcases Option.bind_eq_some_iff.mp found with ⟨⟨name, behind⟩, named, found⟩
  have spaces := length_skipSpace_le cs
  have characters := length_of_readString? named
  dsimp only at found
  split at found
  · next colon =>
    have fewer := length_of_skipSpace colon
    rcases Option.bind_eq_some_iff.mp found with ⟨⟨value, last⟩, read, same⟩
    cases same
    exact reads (by omega) read
  · cases found

theorem reads_readMembers? {n : Nat} {item : List Char → Option (Json × List Char)}
    (reads : Reads n (Bounded n) item) (fuel : Nat) :
    Reads n (fun members => ∀ member ∈ members, Bounded n member.2) (readMembers? item fuel) := by
  induction fuel with
  | zero =>
      intro _ _ _ _ found
      cases found
  | succ fuel inductionHypothesis =>
      intro cs members rest short found
      rw [readMembers?] at found
      rcases Option.bind_eq_some_iff.mp found with ⟨⟨member, behind⟩, first, found⟩
      rcases reads_readMember? reads short first with ⟨left, bounded⟩
      dsimp only at found
      split at found
      · next comma =>
        have fewer := length_of_skipSpace comma
        rcases Option.bind_eq_some_iff.mp found with ⟨⟨later, last⟩, others, same⟩
        cases same
        rcases inductionHypothesis (by omega) others with ⟨left, each⟩
        exact ⟨left, List.forall_mem_cons.mpr ⟨bounded, each⟩⟩
      · next ended =>
        have fewer := length_of_skipSpace ended
        cases found
        exact ⟨by omega, List.forall_mem_singleton.mpr bounded⟩
      · cases found

/-- The members that count are among those that were read. -/
theorem bounded_objectOf {n : Nat} {members : List (String × Json)}
    (each : ∀ member ∈ members, Bounded n member.2) : Bounded n (objectOf members) := by
  refine .object fun ⟨name, value⟩ listed => ?_
  rw [Keyed.mem_entries_iff, Keyed.get?_ofList] at listed
  exact each (name, value) (List.mem_reverse.mp (Keyed.mem_entries_of_lookup listed))

/-- What is read at one level of nesting, where the same holds of the level below.  Only arrays and objects go
down to it. -/
theorem reads_readValue?_of_deeper {n depth : Nat}
    (deeper : ∀ below, depth = below + 1 → Reads n (Bounded n) (readValue? below)) :
    Reads n (Bounded n) (readValue? depth) := by
  intro cs value rest short found
  rw [readValue?.eq_def] at found
  dsimp only at found
  split at found
  · next first =>
    have fewer := length_of_skipSpace first
    rcases word_of_expect? found with ⟨rfl, behind⟩
    exact ⟨by omega, .null⟩
  · next first =>
    have fewer := length_of_skipSpace first
    rcases word_of_expect? found with ⟨rfl, behind⟩
    exact ⟨by omega, .bool true⟩
  · next first =>
    have fewer := length_of_skipSpace first
    rcases word_of_expect? found with ⟨rfl, behind⟩
    exact ⟨by omega, .bool false⟩
  · next first =>
    have fewer := length_of_skipSpace first
    rcases Option.map_eq_some_iff.mp found with ⟨⟨s, last⟩, read, same⟩
    have characters := length_of_readString? read
    rw [List.length_cons] at characters
    cases same
    have fits : s.toList.length ≤ n := by omega
    exact ⟨show last.length ≤ n by omega, .string fits⟩
  · next inside first =>
    have fewer := length_of_skipSpace first
    split at found
    · cases found
    · next below =>
      split at found
      · next ended =>
        have empty := length_of_skipSpace ended
        cases found
        exact ⟨by omega, .array nofun⟩
      · have spaces := length_skipSpace_le inside
        rcases Option.map_eq_some_iff.mp found with ⟨⟨items, last⟩, read, same⟩
        cases same
        rcases reads_readItems? (deeper below rfl) _ (by omega) read with ⟨left, each⟩
        exact ⟨left, .array each⟩
  · next inside first =>
    have fewer := length_of_skipSpace first
    split at found
    · cases found
    · next below =>
      split at found
      · next ended =>
        have empty := length_of_skipSpace ended
        cases found
        exact ⟨by omega, .object nofun⟩
      · have spaces := length_skipSpace_le inside
        rcases Option.map_eq_some_iff.mp found with ⟨⟨members, last⟩, read, same⟩
        cases same
        rcases reads_readMembers? (deeper below rfl) _ (by omega) read with ⟨left, each⟩
        exact ⟨left, bounded_objectOf each⟩
  · have spaces := length_skipSpace_le cs
    exact reads_readNumber? n (by omega) found

/-- A value is read in which nothing is larger than the text. -/
theorem reads_readValue? (n depth : Nat) : Reads n (Bounded n) (readValue? depth) := by
  induction depth with
  | zero =>
      refine reads_readValue?_of_deeper fun below same => ?_
      cases same
  | succ depth inductionHypothesis =>
      refine reads_readValue?_of_deeper fun below same => ?_
      cases same
      exact inductionHypothesis

/-- A text holds no string that is longer than it, and no infinite number. -/
theorem bounded_of_read? {text : String} {value : Json} (found : read? text = some value) :
    Bounded text.toList.length value := by
  rcases Option.bind_eq_some_iff.mp found with ⟨⟨read, rest⟩, first, found⟩
  rcases Option.ite_none_right_eq_some.mp found with ⟨_, same⟩
  cases same
  exact (reads_readValue? _ depthLimit (Nat.le_refl _) first).2

end Json

/-- Input values in a text are of the sizes that there can be. -/
theorem RawValues.sized_of_read? {text : String} {raw : RawValues} (fits : text.toList.length < signedBound)
    (found : (Json.read? text).bind RawValues.ofJson? = some raw) (name : String) (value : Json)
    (given : raw.get? name = some value) : value.Sized := by
  rcases Option.bind_eq_some_iff.mp found with ⟨object, read, found⟩
  rcases Option.map_eq_some_iff.mp found with ⟨members, listed, rfl⟩
  rw [Keyed.get?_ofList] at given
  have member := List.mem_reverse.mp (Keyed.mem_entries_of_lookup given)
  cases Json.bounded_of_read? read with
  | object each =>
      cases listed
      exact (each (name, value) member).sized fits
  | null | bool | integer | float | string | array => cases listed

end RecordDirectory
