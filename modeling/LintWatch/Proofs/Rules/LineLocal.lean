import Mathlib
import LintWatch.Rules.Validate

/-! The built-in rules look at one line at a time. Bytes cut right after a newline byte cut
UTF-8 text between two characters, because no longer encoding holds that byte, and cut the
text between two lines. Main statement: validating the bytes `s ++ t`, where `s` ends with a
newline byte, succeeds exactly when validating each part does, and then gives the violations
of `s` followed by those of `t` moved down by the newline bytes of `s`. Every violation
points at a line of the text, the list runs in line order, and within a line the rules come
in the order they are checked. -/
namespace LintWatch.Rules

/-! ### Newlines in UTF-8 -/

theorem newlineByte {c : Char} : (10 : UInt8) ∈ String.utf8EncodeChar c ↔ c = '\n' := by
  constructor
  · intro mem
    unfold String.utf8EncodeChar at mem
    dsimp only at mem
    -- every byte of a longer encoding has its top bit set
    split_ifs at mem with one two three <;>
      simp only [List.mem_cons,List.not_mem_nil,or_false,← UInt8.toNat_inj,UInt8.toNat_ofNat,
        UInt8.toNat_ofNat'] at mem
    · apply Char.toNat_inj.mp
      show c.val.toNat = 10
      omega
    all_goals omega
  · rintro rfl
    decide

theorem newlineEncoding : String.utf8EncodeChar '\n' = [10] := by
  decide

theorem countNewlineBytes (m : List Char) : (m.flatMap String.utf8EncodeChar).count 10 = m.count '\n' := by
  induction m with
  | nil => rfl
  | cons c rest ih =>
    rw [List.flatMap_cons,List.count_append,ih,List.count_cons]
    by_cases newline : c = '\n'
    · subst newline
      rw [newlineEncoding]
      simp only [List.count_singleton_self,beq_self_eq_true,if_true]
      omega
    · have absent : (10 : UInt8) ∉ String.utf8EncodeChar c := fun mem => newline (newlineByte.mp mem)
      simp [List.count_eq_zero_of_not_mem absent,newline]

theorem endsWithNewline {m : List Char} (ends : (m.flatMap String.utf8EncodeChar).getLast? = some 10) :
    ∃ front, m = front ++ ['\n'] := by
  rcases m.eq_nil_or_concat with empty | ⟨front,c,rfl⟩
  · subst empty
    cases ends
  · refine ⟨front,?_⟩
    rw [List.concat_eq_append] at ends ⊢
    rw [List.flatMap_append,List.flatMap_singleton,List.getLast?_append_of_ne_nil _ String.utf8EncodeChar_ne_nil]
      at ends
    rw [newlineByte.mp (List.mem_of_getLast? ends)]

theorem splitAfterNewline {m : List Char} {bs rest : List UInt8} (ends : bs.getLast? = some 10)
    (encoded : bs ++ rest = m.flatMap String.utf8EncodeChar) :
    ∃ m₁ m₂, m = m₁ ++ m₂ ∧ bs = m₁.flatMap String.utf8EncodeChar := by
  induction m generalizing bs with
  | nil =>
    rw [List.flatMap_nil,List.append_eq_nil_iff] at encoded
    rw [encoded.1] at ends
    cases ends
  | cons c m ih =>
    rw [List.flatMap_cons,List.append_eq_append_iff] at encoded
    rcases encoded with ⟨more,whole,-⟩ | ⟨more,longer,tail⟩
    · -- the bytes end inside the first character's encoding, which then is the newline alone
      rcases List.eq_nil_or_concat more with done | ⟨_,_,rfl⟩
      · subst done
        exact ⟨[c],m,rfl,by simpa using whole.symm⟩
      · have mem : (10 : UInt8) ∈ String.utf8EncodeChar c := by
          rw [whole]
          exact List.mem_append_left _ (List.mem_of_getLast? ends)
        rw [newlineByte.mp mem,newlineEncoding] at whole
        have lengths := congrArg List.length whole
        have nonempty : bs ≠ [] := by
          rintro rfl
          cases ends
        simp only [List.length_cons,List.length_nil,List.length_append,List.length_concat] at lengths
        have := List.length_pos_of_ne_nil nonempty
        omega
    · rcases List.eq_nil_or_concat more with done | ⟨front,b,rfl⟩
      · subst done
        exact ⟨[c],m,rfl,by simpa using longer⟩
      · rw [List.concat_eq_append] at longer tail
        rw [longer,← List.append_assoc,List.getLast?_concat] at ends
        obtain ⟨m₁,m₂,split,bytes⟩ := ih (by rw [List.getLast?_concat]; exact ends) tail.symm
        refine ⟨c :: m₁,m₂,by rw [split,List.cons_append],?_⟩
        rw [longer,bytes,List.flatMap_cons]

theorem bytesOfEncode (m : List Char) : m.utf8Encode.data.toList = m.flatMap String.utf8EncodeChar :=
  List.toList_data_toByteArray

theorem encodeOfBytes {b : ByteArray} {m : List Char} (bytes : b.data.toList = m.flatMap String.utf8EncodeChar) :
    b = m.utf8Encode := by
  apply ByteArray.ext
  apply Array.toList_inj.mp
  rw [bytes,bytesOfEncode]

theorem textOfEncode (m : List Char) : String.fromUTF8? m.utf8Encode = some (String.ofList m) := by
  rw [String.fromUTF8?,dif_pos ByteArray.isValidUTF8_utf8Encode,Option.some.injEq,← String.toByteArray_inj]
  simp [String.fromUTF8]

theorem encodedAfterNewline {s t : ByteArray} {m : List Char} (ends : s.data.toList.getLast? = some 10)
    (encoded : s ++ t = m.utf8Encode) :
    ∃ front m₂, m = front ++ '\n' :: m₂ ∧ s = (front ++ ['\n']).utf8Encode ∧ t = m₂.utf8Encode := by
  have bytes := congrArg (fun b : ByteArray => b.data.toList) encoded
  simp only [ByteArray.toList_data_append,bytesOfEncode] at bytes
  obtain ⟨m₁,m₂,split,first⟩ := splitAfterNewline ends bytes
  obtain ⟨front,rfl⟩ := endsWithNewline (first ▸ ends)
  refine ⟨front,m₂,by simp [split],encodeOfBytes first,encodeOfBytes ?_⟩
  rw [first,split] at bytes
  simpa using bytes

/-! ### Lines -/

theorem linesFromAfterNewline (acc cs ds : List Char) :
    linesFrom acc (cs ++ '\n' :: ds) = linesFrom acc (cs ++ ['\n']) ++ linesFrom [] ds := by
  induction cs generalizing acc with
  | nil => simp [linesFrom]
  | cons x rest ih =>
    by_cases newline : x = '\n'
    · subst newline
      simp [linesFrom,ih]
    · simp [linesFrom,ih]

theorem linesAfterNewline (cs ds : List Char) : lines (cs ++ '\n' :: ds) = lines (cs ++ ['\n']) ++ lines ds :=
  linesFromAfterNewline [] cs ds

theorem linesFromEndingLength (acc cs : List Char) : (linesFrom acc (cs ++ ['\n'])).length = cs.count '\n' + 1 := by
  induction cs generalizing acc with
  | nil => simp [linesFrom]
  | cons x rest ih =>
    by_cases newline : x = '\n'
    · subst newline
      simp [linesFrom,ih]
    · simp [linesFrom,newline,ih]

theorem linesEndingLength (cs : List Char) : (lines (cs ++ ['\n'])).length = (cs ++ ['\n']).count '\n' := by
  rw [lines,linesFromEndingLength]
  simp

/-! ### Violations by line -/

/-- The violation moved down by `k` lines. -/
def shiftLine (k : Nat) (v : Violation) : Violation := { v with line := v.line.map (· + k) }

/-- The rules in the order each line is checked. -/
def ruleOrder : List String := ["hardcoded-secret","line-length","unresolved-marker","trailing-whitespace"]

theorem checkLineShift (limit n k : Nat) (line : List Char) :
    checkLine limit (n + k) line = (checkLine limit n line).map (shiftLine k) := by
  simp only [checkLine,List.map_append]
  split <;> split <;> split <;> split <;> simp [shiftLine]

theorem checkLineAt (limit n : Nat) (line : List Char) : ∀ v ∈ checkLine limit n line, v.line = some n := by
  intro v mem
  simp only [checkLine,List.mem_append,List.mem_ite_nil_right,List.mem_singleton] at mem
  rcases mem with ((⟨-,rfl⟩ | ⟨-,rfl⟩) | marker) | ⟨-,rfl⟩
  · rfl
  · rfl
  · split at marker
    · rw [List.mem_singleton.mp marker]
    · cases marker
  · rfl

theorem checkLineRules (limit n : Nat) (line : List Char) : List.Sublist ((checkLine limit n line).map (·.rule)) ruleOrder := by
  -- each rule adds at most its own violation, in the order of `ruleOrder`
  have order : ruleOrder = ["hardcoded-secret"] ++ ["line-length"] ++ ["unresolved-marker"] ++
      ["trailing-whitespace"] := rfl
  simp only [checkLine,List.map_append,order]
  refine List.Sublist.append (List.Sublist.append (List.Sublist.append ?_ ?_) ?_) ?_ <;> split <;> simp

theorem checkLinesAppend (limit start : Nat) (ls ms : List (List Char)) :
    checkLines limit start (ls ++ ms) = checkLines limit start ls ++ checkLines limit (start + ls.length) ms := by
  induction ls generalizing start with
  | nil => rfl
  | cons l rest ih =>
    rw [List.cons_append,checkLines,checkLines,ih,List.append_assoc,List.length_cons,Nat.add_comm rest.length 1,
      Nat.add_assoc]

theorem checkLinesShift (limit start k : Nat) (ls : List (List Char)) :
    checkLines limit (start + k) ls = (checkLines limit start ls).map (shiftLine k) := by
  induction ls generalizing start with
  | nil => rfl
  | cons l rest ih =>
    rw [checkLines,checkLines,List.map_append,checkLineShift,Nat.add_right_comm,ih]

theorem checkLinesAt (limit start : Nat) (ls : List (List Char)) :
    ∀ v ∈ checkLines limit start ls, ∃ k, v.line = some k ∧ start ≤ k ∧ k < start + ls.length := by
  induction ls generalizing start with
  | nil => simp [checkLines]
  | cons l rest ih =>
    intro v mem
    rw [checkLines,List.mem_append] at mem
    rcases mem with here | later
    · exact ⟨start,checkLineAt limit start l v here,le_refl _,by simp⟩
    · obtain ⟨k,at_,after,before⟩ := ih (start + 1) v later
      exact ⟨k,at_,by omega,by simp only [List.length_cons]; omega⟩

theorem checkLinesSorted (limit start : Nat) (ls : List (List Char)) :
    (checkLines limit start ls).Pairwise (fun a b => a.line.getD 0 ≤ b.line.getD 0) := by
  induction ls generalizing start with
  | nil => exact List.Pairwise.nil
  | cons l rest ih =>
    rw [checkLines,List.pairwise_append]
    refine ⟨?_,ih (start + 1),fun a here b later => ?_⟩
    · -- one line's violations all point at that line
      refine List.Pairwise.imp_of_mem ?_ (List.pairwise_of_forall (R := fun _ _ => True) (fun _ _ => trivial))
      intro a b memA memB _
      rw [checkLineAt limit start l a memA,checkLineAt limit start l b memB]
    · obtain ⟨k,at_,after,-⟩ := checkLinesAt limit (start + 1) rest b later
      rw [checkLineAt limit start l a here,at_]
      simp only [Option.getD_some]
      omega

theorem checkLinesRulesAt (limit start k : Nat) (ls : List (List Char)) :
    List.Sublist (((checkLines limit start ls).filter (·.line == some k)).map (·.rule)) ruleOrder := by
  induction ls generalizing start with
  | nil => simp [checkLines]
  | cons l rest ih =>
    rw [checkLines,List.filter_append,List.map_append]
    by_cases here : start = k
    · -- the line numbered `k` is this one, and no later violation points at it
      have none : (checkLines limit (start + 1) rest).filter (·.line == some k) = [] := by
        rw [List.filter_eq_nil_iff]
        intro v mem
        obtain ⟨j,at_,after,-⟩ := checkLinesAt limit (start + 1) rest v mem
        simp [at_]
        omega
      have all : (checkLine limit start l).filter (·.line == some k) = checkLine limit start l := by
        rw [List.filter_eq_self]
        intro v mem
        simp [checkLineAt limit start l v mem,here]
      rw [none,all,List.map_nil,List.append_nil]
      exact checkLineRules limit start l
    · have none : (checkLine limit start l).filter (·.line == some k) = [] := by
        rw [List.filter_eq_nil_iff]
        intro v mem
        simp [checkLineAt limit start l v mem,here]
      rw [none,List.map_nil,List.nil_append]
      exact ih (start + 1)

/-! ### Validation -/

theorem validateEncoded (limit : Nat) (path : String) (m : List Char) :
    validate limit path m.utf8Encode = .ok (checkLines limit 1 (lines m)) := by
  simp [validate,textOfEncode,checkText,String.toList_ofList]

theorem validateInvalid {limit : Nat} {path : String} {b : ByteArray} (invalid : ¬ b.IsValidUTF8) :
    validate limit path b = .error (.encoding path) := by
  simp [validate,String.fromUTF8?,invalid]

theorem validateOk {limit : Nat} {path : String} {b : ByteArray} {vs : List Violation}
    (ok : validate limit path b = .ok vs) : ∃ m, b = m.utf8Encode ∧ vs = checkLines limit 1 (lines m) := by
  by_cases valid : b.IsValidUTF8
  · obtain ⟨m,rfl⟩ := valid
    rw [validateEncoded] at ok
    exact ⟨m,rfl,(Except.ok.inj ok).symm⟩
  · rw [validateInvalid valid] at ok
    cases ok

/-- The rules are line-local with exact numbering. Bytes `s` ending with a newline byte and
any bytes `t` validate together exactly when each validates, and then to the violations of
`s` followed by those of `t` moved down by the newline bytes of `s`; otherwise the content
is refused as text of `path`. Every violation of a validated content points at one of the
lines of its text, the list runs in line order, and the rules of one line come in the order
credential, length, marker, trailing blanks. -/
theorem validateIsLineLocal (limit : Nat) (path : String) :
    (∀ s t : ByteArray, s.data.toList.getLast? = some 10 →
      validate limit path (s ++ t) =
        match validate limit path s, validate limit path t with
        | .ok vs, .ok ws => .ok (vs ++ ws.map (shiftLine (s.data.toList.count 10)))
        | _, _ => .error (.encoding path)) ∧
    ∀ content vs, validate limit path content = .ok vs →
      ∃ text, String.fromUTF8? content = some text ∧
        (∀ v ∈ vs, ∃ k, v.line = some k ∧ 1 ≤ k ∧ k ≤ (lines text.toList).length) ∧
        vs.Pairwise (fun a b => a.line.getD 0 ≤ b.line.getD 0) ∧
        ∀ k, List.Sublist ((vs.filter (·.line == some k)).map (·.rule)) ruleOrder := by
  refine ⟨fun s t ends => ?_,fun content vs ok => ?_⟩
  · by_cases valid : (s ++ t).IsValidUTF8
    · obtain ⟨m,encoded⟩ := valid
      obtain ⟨front,m₂,rfl,rfl,rfl⟩ := encodedAfterNewline ends encoded
      -- the lines of the whole are the lines of `s` and then those of `t`
      have shifted : (front ++ ['\n']).utf8Encode.data.toList.count 10 = (lines (front ++ ['\n'])).length := by
        rw [bytesOfEncode,countNewlineBytes,linesEndingLength]
      rw [encoded,validateEncoded,validateEncoded,validateEncoded,linesAfterNewline,checkLinesAppend,shifted,
        checkLinesShift]
    · have apart : ¬ (s.IsValidUTF8 ∧ t.IsValidUTF8) := fun both => valid (both.1.append both.2)
      rw [validateInvalid valid]
      by_cases first : s.IsValidUTF8
      · rw [validateInvalid (fun second => apart ⟨first,second⟩)]
        split <;> simp_all
      · rw [validateInvalid first]
  · obtain ⟨m,rfl,rfl⟩ := validateOk ok
    refine ⟨String.ofList m,textOfEncode m,fun v mem => ?_,checkLinesSorted limit 1 (lines m),
      fun k => checkLinesRulesAt limit 1 k (lines m)⟩
    obtain ⟨k,at_,after,before⟩ := checkLinesAt limit 1 (lines m) v mem
    exact ⟨k,at_,after,by rw [String.toList_ofList]; omega⟩

theorem markerMovesDownOneLine :
    let s := "let y = 1;  \n".toUTF8
    let t := "// TODO: tidy up\n".toUTF8
    s.data.toList.getLast? = some 10 ∧
      validate 120 "sample.ts" (s ++ t) =
        match validate 120 "sample.ts" s, validate 120 "sample.ts" t with
        | .ok vs, .ok ws => .ok (vs ++ ws.map (shiftLine (s.data.toList.count 10)))
        | _, _ => .error (.encoding "sample.ts") := by
  intro s t
  have ends : s.data.toList.getLast? = some 10 := by
    cbv
  exact ⟨ends,(validateIsLineLocal 120 "sample.ts").1 s t ends⟩

end LintWatch.Rules
