import TableStore.Answer.Layout
import TableStore.Proofs.JsonReader
import TableStore.Proofs.Reading
import TableStore.Proofs.Text

set_option autoImplicit false

namespace TableStore

theorem RowSet.columns_of_pairs {set : RowSet} (rectangular : set.Rectangular) :
    ∀ pairs ∈ set.rows.map set.columns.zip, pairs.map (·.1) = set.columns := by
  intro pairs listed
  obtain ⟨row, inside, rfl⟩ := List.mem_map.mp listed
  exact List.map_fst_zip (rectangular row inside).ge

theorem RowSet.rows_of_pairs {set : RowSet} (rectangular : set.Rectangular) :
    (set.rows.map set.columns.zip).map (·.map (·.2)) = set.rows := by
  rw [List.map_map]
  refine (List.map_congr_left fun row inside => ?_).trans (List.map_id _)
  exact List.map_snd_zip (rectangular row inside).le

theorem RowSet.eq_of_pairs {set other : RowSet} (filled : set.rows ≠ []) (rectangular : set.Rectangular)
    (otherRectangular : other.Rectangular)
    (same : set.rows.map set.columns.zip = other.rows.map other.columns.zip) : set = other := by
  have rows : set.rows = other.rows := by
    rw [← rows_of_pairs rectangular, same, rows_of_pairs otherRectangular]
  obtain ⟨row, rest, first⟩ := List.exists_cons_of_ne_nil filled
  have listed : set.columns.zip row ∈ set.rows.map set.columns.zip := by simp [first]
  have columns : set.columns = other.columns := by
    rw [← columns_of_pairs rectangular _ listed, columns_of_pairs otherRectangular _ (same ▸ listed)]
  cases set
  cases other
  exact congr (congrArg RowSet.mk columns) rows

namespace Json

theorem hex_digit_reads : ∀ n < 16, Quoted.hexDigit? (hexDigit n) = some n := by
  decide

theorem escape_control {c : Char} (control : c.toNat < 0x20) (rest : List Char) :
    escape ('u' :: '0' :: '0' :: hexDigit (c.toNat / 16) :: hexDigit (c.toNat % 16) :: rest) = some (c, rest) := by
  have zero : Quoted.hexDigit? '0' = some 0 := rfl
  have high := hex_digit_reads (c.toNat / 16) (by omega)
  have low := hex_digit_reads (c.toNat % 16) (by omega)
  have whole : ((0 * 16 + 0) * 16 + c.toNat / 16) * 16 + c.toNat % 16 = c.toNat := by omega
  have scalar : Quoted.scalar? c.toNat = some c := by
    rw [Quoted.scalar?, if_pos (show c.toNat.isValidChar from c.valid), Char.ofNat_toNat]
  have unit : codeUnit ('0' :: '0' :: hexDigit (c.toNat / 16) :: hexDigit (c.toNat % 16) :: rest) =
      some (c.toNat, rest) := by
    simp only [codeUnit, Quoted.hexDigits, zero, high, low, whole]
    rfl
  rw [escape, if_pos rfl, numbered, unit, Option.bind_some]
  simp only
  rw [if_neg (by omega), scalar]
  rfl

theorem content_escape {d : Char} {cs rest : List Char} (read : escape cs = some (d, rest)) :
    content ('\\' :: cs) = (content rest).map (Quoted.emit d) := by
  rw [content, if_neg (by decide), if_pos rfl]
  split
  · rename_i failed
    rw [read] at failed
    cases failed
  · rename_i found
    rw [read] at found
    cases found
    rfl

theorem escaped_cases (c : Char) :
    (∃ d ∈ ['\x22', '\\', 'b', 'f', 'n', 'r', 't'], unescaped? d = some c ∧ escaped c = ['\\', d]) ∨
      (c.toNat < 0x20 ∧ escaped c = ['\\', 'u', '0', '0', hexDigit (c.toNat / 16), hexDigit (c.toNat % 16)]) ∨
      (c ≠ '\x22' ∧ c ≠ '\\' ∧ ¬c.toNat < 0x20) ∧ escaped c = [c] := by
  rw [escaped]
  split_ifs with mark backspace feed newline carriage tab control
  · refine .inl ⟨c, ?_, ?_, rfl⟩ <;> rcases mark with rfl | rfl <;> decide
  · exact .inl ⟨'b', by decide, congrArg some backspace.symm, rfl⟩
  · exact .inl ⟨'f', by decide, congrArg some feed.symm, rfl⟩
  · exact .inl ⟨'n', by decide, congrArg some newline.symm, rfl⟩
  · exact .inl ⟨'r', by decide, congrArg some carriage.symm, rfl⟩
  · exact .inl ⟨'t', by decide, congrArg some tab.symm, rfl⟩
  · exact .inr (.inl ⟨control, rfl⟩)
  · exact .inr (.inr ⟨⟨mark ∘ .inl, mark ∘ .inr, control⟩, rfl⟩)

theorem content_escaped (c : Char) (rest : List Char) :
    content (escaped c ++ rest) = (content rest).map (Quoted.emit c) := by
  rcases escaped_cases c with ⟨d, listed, stands, shown⟩ | ⟨control, shown⟩ | ⟨⟨mark, backslash, visible⟩, shown⟩ <;>
    rw [shown]
  · have lettered : d ≠ 'u' := by
      rintro rfl
      cases stands
    have read : escape (d :: rest) = some (c, rest) := by
      rw [escape, if_neg lettered, stands]
      rfl
    exact content_escape read
  · exact content_escape (escape_control control rest)
  · rw [List.singleton_append, content, if_neg mark, if_neg backslash, if_neg visible]

theorem content_flat_map (cs rest : List Char) : content (cs.flatMap escaped ++ '\x22' :: rest) = some (cs, rest) := by
  induction cs with
  | nil =>
    rw [List.flatMap_nil, List.nil_append, content, if_pos rfl]
  | cons c others ih =>
    rw [List.flatMap_cons, List.append_assoc, content_escaped, ih]
    rfl

theorem unpadded_of_head {digits : List Char} (head : digits.head? ≠ some '0') : unpadded digits = true := by
  rw [unpadded.eq_def]
  split
  · exact absurd rfl head
  · rfl

theorem digits_head {n : Nat} (positive : 0 < n) : (Nat.toDigits 10 n).head? ≠ some '0' := by
  induction n using Nat.strongRecOn with
  | ind n ih =>
    rw [Nat.toDigits_eq_if (by decide)]
    split
    · rename_i single
      have apart : ∀ digit < 10, 0 < digit → digit.digitChar ≠ '0' := by decide
      simpa using apart n single positive
    · rename_i several
      have before := ih (n / 10) (by omega) (by omega)
      rwa [List.head?_append_of_ne_nil _ Nat.toDigits_ne_nil]

theorem digits_unpadded (n : Nat) : unpadded (Nat.toDigits 10 n) = true := by
  cases n with
  | zero => rfl
  | succ m => exact unpadded_of_head (digits_head m.succ_pos)

theorem write_plain (n : Int64) : isPlain (Decimal.write n).toList = true := by
  rw [Decimal.write]
  cases n.toInt with
  | ofNat m =>
    rw [Decimal.to_string_of_nat, isPlain.eq_def]
    split
    · rename_i same
      cases Decimal.digits_head_is_digit same
    · rename_i same
      cases Decimal.digits_head_is_digit same
    · exact digits_unpadded m
  | negSucc m =>
    rw [Decimal.to_string_neg_succ]
    exact digits_unpadded (m + 1)

theorem write_part (n : Int64) : ∀ c ∈ (Decimal.write n).toList, isNumberPart c = true := by
  intro c listed
  rcases Decimal.write_characters n listed with rfl | digit
  · rfl
  · simp [isNumberPart, digit]

theorem number_write {n : Int64} {c d : Char} {run rest : List Char} (written : (Decimal.write n).toList = c :: run)
    (behind : isNumberPart d = false) : number c (run ++ d :: rest) = some (n, d :: rest) := by
  have part : ∀ digit ∈ run, isNumberPart digit = true := by
    intro digit listed
    exact write_part n digit (written ▸ List.mem_cons_of_mem c listed)
  have run_taken : (run ++ d :: rest).takeWhile isNumberPart = run := by
    rw [List.takeWhile_append_of_pos part, List.takeWhile_cons, if_neg (by simp [behind]), List.append_nil]
  have rest_left : (run ++ d :: rest).dropWhile isNumberPart = d :: rest := by
    rw [List.dropWhile_append_of_pos part, List.dropWhile_cons, if_neg (by simp [behind])]
  rw [number, run_taken, rest_left, ← written, if_pos (write_plain n), String.ofList_toList, Decimal.read_write]
  rfl

theorem tokens_next {c : Char} {cs rest : List Char} {token : Token} (visible : isSpace c = false)
    (read : next c cs = some (token, rest)) : tokens (c :: cs) = (tokens rest).map (token :: ·) := by
  rw [tokens, if_neg (by simp [visible])]
  split
  · rename_i failed
    rw [read] at failed
    cases failed
  · rename_i found
    rw [read] at found
    cases found
    rfl

theorem tokens_sign {c : Char} {sign : Token} (listed : sign? c = some sign) (rest : List Char) :
    tokens (c :: rest) = (tokens rest).map (sign :: ·) := by
  rw [sign?.eq_def] at listed
  split at listed <;> cases listed <;> exact tokens_next rfl rfl

theorem tokens_quoted (text : String) (rest : List Char) :
    tokens ((quoted text).toList ++ rest) = (tokens rest).map (.scalar (.text text) :: ·) := by
  have shown : (quoted text).toList ++ rest = '\x22' :: (text.toList.flatMap escaped ++ '\x22' :: rest) := by
    simp [quoted]
  rw [shown]
  apply tokens_next rfl
  rw [next, if_pos rfl, content_flat_map, Option.map_some]
  simp only [String.ofList_toList]

theorem number_start {c : Char} (start : c = '-' ∨ c.isDigit = true) :
    isSpace c = false ∧ c ≠ '\x22' ∧ sign? c = none := by
  rcases start with rfl | digit
  · decide
  · refine ⟨?_, ?_, ?_⟩
    · simp only [isSpace, Bool.or_eq_false_iff, beq_eq_false_iff_ne]
      refine ⟨⟨⟨?_, ?_⟩, ?_⟩, ?_⟩ <;> rintro rfl <;> cases digit
    · rintro rfl
      cases digit
    · rw [sign?.eq_def]
      split <;> first | rfl | cases digit

theorem tokens_decimal (n : Int64) {d : Char} (behind : isNumberPart d = false) (rest : List Char) :
    tokens ((Decimal.write n).toList ++ d :: rest) = (tokens (d :: rest)).map (.scalar (.integer n) :: ·) := by
  obtain ⟨c, run, written⟩ := List.exists_cons_of_ne_nil (Decimal.write_nonempty n)
  obtain ⟨visible, mark, unsigned⟩ := number_start (Decimal.write_characters n (written ▸ List.mem_cons_self ..))
  rw [written, List.cons_append]
  apply tokens_next visible
  rw [next, if_neg mark, unsigned]
  simp only
  rw [number_write written behind]
  rfl

theorem tokens_value (written : Value) {d : Char} (behind : isNumberPart d = false) (rest : List Char) :
    tokens ((value written).toList ++ d :: rest) = (tokens (d :: rest)).map (.scalar written :: ·) := by
  cases written with
  | integer n => exact tokens_decimal n behind rest
  | text content => exact tokens_quoted content (d :: rest)

theorem tokens_member (entry : String × Value) {d : Char} {sign : Token} (listed : sign? d = some sign)
    (behind : isNumberPart d = false) (rest : List Char) :
    tokens ((member entry).toList ++ d :: rest) =
      (tokens rest).map ([.scalar (.text entry.1), .colon, .scalar entry.2, sign] ++ ·) := by
  have shown : (member entry).toList ++ d :: rest =
      (quoted entry.1).toList ++ ':' :: ((value entry.2).toList ++ d :: rest) := by
    simp [member]
  rw [shown, tokens_quoted, tokens_sign rfl, tokens_value entry.2 behind, tokens_sign listed]
  simp only [Option.map_map]
  rfl

-- By induction on the members: each is read together with the sign behind it, by which a number ends.
theorem members_read (entry : String × Value) (others : List (String × Value)) :
    (tokens ((",".intercalate ((entry :: others).map member)).toList ++ ['\x7d'])).bind members =
      some (entry :: others) := by
  induction others generalizing entry with
  | nil =>
    rw [List.map_singleton, String.intercalate_singleton, tokens_member entry rfl rfl, tokens]
    rfl
  | cons next rest ih =>
    have shown : (",".intercalate ((entry :: next :: rest).map member)).toList ++ ['\x7d'] =
        (member entry).toList ++ ',' :: ((",".intercalate ((next :: rest).map member)).toList ++ ['\x7d']) := by
      simp [String.intercalate_cons_cons]
    rw [shown, tokens_member entry rfl rfl]
    obtain ⟨found, taken, read⟩ := Option.bind_eq_some_iff.mp (ih next)
    rw [taken, Option.map_some, Option.bind_some]
    simp only [List.cons_append, List.nil_append, members, read, Option.map_some]

theorem decode_object (record : Record) : decode (object record) = some record.entries := by
  have opened : (object record).toList =
      '\x7b' :: ((",".intercalate (record.entries.map member)).toList ++ ['\x7d']) := by
    simp [object]
  rw [decode, opened, tokens_sign rfl]
  cases record.entries with
  | nil =>
    rw [List.map_nil, String.intercalate_nil, String.toList_empty, List.nil_append, tokens_sign rfl, tokens]
    rfl
  | cons entry others =>
    obtain ⟨found, taken, read⟩ := Option.bind_eq_some_iff.mp (members_read entry others)
    have filled : found ≠ [.closing] := by
      rintro rfl
      cases read
    rw [taken, Option.map_some, Option.bind_some, entries, if_neg filled, read]

def Visible (text : String) : Prop := ∀ d ∈ text.toList, 0x20 ≤ d.toNat

theorem Visible.append {front rest : String} (before : Visible front) (behind : Visible rest) : Visible (front ++ rest) := by
  intro d listed
  rw [String.toList_append, List.mem_append] at listed
  exact listed.elim (before d) (behind d)

theorem Visible.intercalate {glue : String} (glued : Visible glue) {parts : List String}
    (each : ∀ part ∈ parts, Visible part) : Visible (glue.intercalate parts) := by
  induction parts with
  | nil => simp [Visible]
  | cons part rest ih =>
    obtain ⟨first, others⟩ := List.forall_mem_cons.mp each
    cases rest with
    | nil => rwa [String.intercalate_singleton]
    | cons next more =>
      rw [String.intercalate_cons_cons]
      exact (first.append glued).append (ih others)

theorem escaped_visible (c : Char) : ∀ d ∈ escaped c, 0x20 ≤ d.toNat := by
  have letters : ∀ d ∈ ['\x22', '\\', 'b', 'f', 'n', 'r', 't'], 0x20 ≤ d.toNat := by simp
  have digits : ∀ n < 16, 0x20 ≤ (hexDigit n).toNat := by decide
  rcases escaped_cases c with ⟨d, listed, _, shown⟩ | ⟨control, shown⟩ | ⟨⟨_, _, visible⟩, shown⟩ <;> rw [shown]
  · simpa using letters d listed
  · simpa using ⟨digits (c.toNat / 16) (by omega), digits (c.toNat % 16) (by omega)⟩
  · simpa using visible

theorem quoted_visible (text : String) : Visible (quoted text) := by
  have mark : Visible "\"" := by simp [Visible]
  refine (mark.append ?_).append mark
  intro d listed
  rw [String.toList_ofList] at listed
  obtain ⟨c, _, inside⟩ := List.mem_flatMap.mp listed
  exact escaped_visible c d inside

theorem value_visible (written : Value) : Visible (value written) := by
  cases written with
  | integer n =>
    intro d listed
    rcases Decimal.write_characters n listed with rfl | digit
    · decide
    · have range := Text.digit_range digit
      omega
  | text content => exact quoted_visible content

theorem object_visible (record : Record) : Visible (object record) := by
  have opening : Visible "\x7b" := by simp [Visible]
  have closing : Visible "\x7d" := by simp [Visible]
  have comma : Visible "," := by simp [Visible]
  have colon : Visible ":" := by simp [Visible]
  refine (opening.append (comma.intercalate ?_)).append closing
  intro part listed
  obtain ⟨entry, _, rfl⟩ := List.mem_map.mp listed
  exact ((quoted_visible entry.1).append colon).append (value_visible entry.2)

def splitLines (text : String) : List String := (text.split '\n').toList.map (·.copy)

theorem split_lines {set : RowSet} (filled : set.rows ≠ []) : splitLines (lines set) = set.records.map object := by
  have unbroken : ∀ line ∈ set.records.map object, '\n' ∉ line.toList := by
    intro line listed inside
    obtain ⟨record, _, rfl⟩ := List.mem_map.mp listed
    exact absurd (object_visible record '\n' inside) (by decide)
  have some : set.records.map object ≠ [] := by simpa [RowSet.records] using filled
  have apart := String.toList_split_intercalate unbroken
  rwa [if_neg some] at apart

theorem decode_lines {set : RowSet} (filled : set.rows ≠ []) :
    (splitLines (lines set)).map decode = set.rows.map fun row => some (set.columns.zip row) := by
  rw [split_lines filled, List.map_map, RowSet.records, List.map_map]
  exact List.map_congr_left fun row _ => decode_object ⟨set.columns, row⟩

theorem rows_survive_json {set : RowSet} (filled : set.rows ≠ []) (rectangular : set.Rectangular) :
    Layout.json.render (.rows set) = .ok (lines set) ∧
      (splitLines (lines set)).map decode = set.rows.map (fun row => some (set.columns.zip row)) ∧
      ∀ other : RowSet, other.rows ≠ [] → other.Rectangular → lines other = lines set → other = set := by
  refine ⟨?_, decode_lines filled, ?_⟩
  · have shown : set.isEmpty = false := by simpa [RowSet.isEmpty] using filled
    simp [Layout.render, shown]
  · intro other otherFilled otherRectangular same
    have decoded := decode_lines otherFilled
    rw [same, decode_lines filled] at decoded
    have pairs : set.rows.map set.columns.zip = other.rows.map other.columns.zip := by
      apply List.map_injective_iff.mpr fun _ _ => Option.some.inj
      rwa [List.map_map, List.map_map]
    exact (RowSet.eq_of_pairs filled rectangular otherRectangular pairs).symm

def trickySet : RowSet :=
  ⟨["note", "id", "note"],
    [[.text "5", .integer 5, .text ""], [.text "a\"b\\c\n\x01\x7f", .integer Int64.minValue, .text "é, \"note\":1"]]⟩

theorem tricky_rows_survive :
    (splitLines (lines trickySet)).map decode =
        [some [("note", .text "5"), ("id", .integer 5), ("note", .text "")],
          some [("note", .text "a\"b\\c\n\x01\x7f"), ("id", .integer Int64.minValue),
            ("note", .text "é, \"note\":1")]] ∧
      ∀ other : RowSet, other.rows ≠ [] → other.Rectangular → lines other = lines trickySet → other = trickySet := by
  have filled : trickySet.rows ≠ [] := by decide
  have rectangular : trickySet.Rectangular := by
    rw [RowSet.Rectangular]
    decide
  exact (rows_survive_json filled rectangular).2

-- What others write is read as well: space between the tokens and characters by their numbers.
example : decode " \x7b \"a\" : \"\\u00e9\\/\\uD83D\\uDE00\" ,\t\"a\":-7\x7d" =
    some [("a", .text "é/😀"), ("a", .integer (-7))] := by
  decide +kernel

end Json

end TableStore
