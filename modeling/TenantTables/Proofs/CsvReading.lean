import TenantTables.Csv
import TenantTables.Proofs.Encoding

/-!
# Files that read back as their records

The reader is a machine over bytes and the writer a function on characters. The
bytes that the machine acts on are ASCII and stand for themselves only, so what
it does with a character is known from the character. Behind a cell the machine
has kept the bytes of the cell, and stands where a comma ends the cell and a
line feed the record. The one exception is an empty cell at the start of a
record, where a line feed is passed over; the writer never leaves a line empty.
-/

namespace TenantTables.Csv

open Text (encodeChar encodeUtf8 decodeUtf8?)

variable {records : List (List (List UInt8))} {cells : List (List UInt8)}
  {cell : List UInt8} {place : Place}

/-! ## Bytes -/

/-- A byte that is kept outside quotes. -/
def isPlain (b : UInt8) : Bool :=
  b != commaByte && !isLineEnd b

theorem stepPlain_plain {b : UInt8} (h : isPlain b = true) (s : State) :
    stepPlain s b = s.keep b .plain := by
  rw [isPlain, Bool.and_eq_true, bne_iff_ne, Bool.not_eq_true'] at h
  rw [stepPlain, if_neg (by simpa using h.1), h.2, if_neg Bool.false_ne_true]

theorem foldl_plain {bytes : List UInt8} (h : ∀ b ∈ bytes, isPlain b = true) :
    bytes.foldl step ⟨records, cells, cell, .plain⟩ =
      ⟨records, cells, bytes.reverse ++ cell, .plain⟩ := by
  induction bytes generalizing cell with
  | nil => rfl
  | cons b bytes ih =>
      have hstep : step ⟨records, cells, cell, .plain⟩ b =
          ⟨records, cells, b :: cell, .plain⟩ :=
        stepPlain_plain (h b (List.mem_cons_self ..)) _
      rw [List.foldl_cons, hstep, ih fun b hb =>
        h b (List.mem_cons_of_mem _ hb),
        List.reverse_cons, List.append_assoc, List.singleton_append]

theorem foldl_inQuotes {bytes : List UInt8} (h : quoteByte ∉ bytes) :
    bytes.foldl step ⟨records, cells, cell, .inQuotes⟩ =
      ⟨records, cells, bytes.reverse ++ cell, .inQuotes⟩ := by
  induction bytes generalizing cell with
  | nil => rfl
  | cons b bytes ih =>
      rw [List.mem_cons, not_or] at h
      have hstep : step ⟨records, cells, cell, .inQuotes⟩ b =
          ⟨records, cells, b :: cell, .inQuotes⟩ :=
        if_neg (by simpa using Ne.symm h.1)
      rw [List.foldl_cons, hstep, ih h.2, List.reverse_cons, List.append_assoc,
        List.singleton_append]

theorem step_comma (h : place ≠ .inQuotes) :
    step ⟨records, cells, cell, place⟩ commaByte =
      ⟨records, cell.reverse :: cells, [], .cellStart⟩ := by
  cases place with
  | inQuotes => exact absurd rfl h
  | recordStart | cellStart | plain | afterQuote => rfl

theorem step_lineFeed
    (h : place = .cellStart ∨ place = .plain ∨ place = .afterQuote) :
    step ⟨records, cells, cell, place⟩ 10 =
      ⟨(cell.reverse :: cells).reverse :: records, [], [], .recordStart⟩ := by
  obtain rfl | rfl | rfl := h <;> rfl

/-! ## Cells -/

/-- A byte of a character is a special one only if the character is. -/
theorem isPlain_of_mem_encodeChar {c : Char} {b : UInt8} (h : b ∈ encodeChar c)
    (hc : c ≠ ',' ∧ c ≠ '\r' ∧ c ≠ '\n') : isPlain b = true := by
  have hne : ∀ special : UInt8, special.toNat < 0x80 →
      c ≠ Char.ofNat special.toNat →
      b ≠ special := by
    rintro special hsmall hspecial rfl
    have hnat := Text.toNat_of_mem_encodeChar h hsmall
    exact hspecial (by rw [← hnat, Char.ofNat_toNat])
  have hcomma : b ≠ 44 := hne 44 (by decide) hc.1
  have hreturn : b ≠ 13 := hne 13 (by decide) hc.2.1
  have hfeed : b ≠ 10 := hne 10 (by decide) hc.2.2
  simp [isPlain, commaByte, isLineEnd, hcomma, hreturn, hfeed]

theorem quoteByte_not_mem_encodeChar {c : Char} (h : c ≠ '"') :
    quoteByte ∉ encodeChar c := by
  intro hmem
  have hnat := Text.toNat_of_mem_encodeChar hmem (by decide)
  exact h (by rw [← Char.ofNat_toNat c, hnat]; rfl)

/-- The characters of a cell in quotes. -/
def doubled (cs : List Char) : List Char :=
  cs.flatMap fun c => if c = '"' then ['"', '"'] else [c]

theorem foldl_doubled (cs : List Char) :
    ((doubled cs).flatMap encodeChar).foldl step
      ⟨records, cells, cell, .inQuotes⟩ =
      ⟨records, cells, (cs.flatMap encodeChar).reverse ++ cell, .inQuotes⟩ := by
  induction cs generalizing cell with
  | nil => rfl
  | cons c cs ih =>
      have hchar :
          ((if c = '"' then ['"', '"'] else [c]).flatMap encodeChar).foldl step
          ⟨records, cells, cell, .inQuotes⟩ =
            ⟨records, cells, (encodeChar c).reverse ++ cell, .inQuotes⟩ := by
        split
        · next hc =>
            subst hc
            rfl
        · next hc =>
            rw [List.flatMap_singleton,
              foldl_inQuotes (quoteByte_not_mem_encodeChar hc)]
      rw [doubled, List.flatMap_cons, List.flatMap_append, List.foldl_append,
        hchar, ← doubled, ih, List.flatMap_cons, List.reverse_append,
        List.append_assoc]

/-- Behind the first byte of a cell without quotes. -/
theorem foldl_unquoted {bytes : List UInt8}
    (hplace : place = .recordStart ∨ place = .cellStart) (hne : bytes ≠ [])
    (h : ∀ b ∈ bytes, isPlain b = true) (hquote : quoteByte ∉ bytes) :
    bytes.foldl step ⟨records, cells, [], place⟩ =
      ⟨records, cells, bytes.reverse, .plain⟩ := by
  obtain ⟨b, bytes, rfl⟩ := List.exists_cons_of_ne_nil hne
  have hb := h b (List.mem_cons_self ..)
  have hb' : b ≠ quoteByte := fun heq => hquote (heq ▸ List.mem_cons_self ..)
  have hend : isLineEnd b = false := by
    rw [isPlain, Bool.and_eq_true, Bool.not_eq_true'] at hb
    exact hb.2
  have hstep :
      step ⟨records, cells, [], place⟩ b = ⟨records, cells, [b], .plain⟩ := by
    obtain rfl | rfl := hplace
    · rw [step]
      dsimp only
      rw [hend, if_neg Bool.false_ne_true, if_neg (by simpa using hb'),
        stepPlain_plain hb]
      rfl
    · rw [step]
      dsimp only
      rw [if_neg (by simpa using hb'), stepPlain_plain hb]
      rfl
  rw [List.foldl_cons, hstep, foldl_plain fun b hb =>
    h b (List.mem_cons_of_mem _ hb),
    List.reverse_cons]

/-- Behind a cell its bytes are kept, and it can be ended. -/
theorem foldl_writeCell (records : List (List (List UInt8)))
    (cells : List (List UInt8))
    (hplace : place = .recordStart ∨ place = .cellStart) (s : String) :
    ∃ behind,
      ((writeCell s).flatMap encodeChar).foldl step
        ⟨records, cells, [], place⟩ =
        ⟨records, cells, (encodeUtf8 s).reverse, behind⟩ ∧
      (behind = .plain ∨ behind = .afterQuote ∨ behind = place ∧ s = "") := by
  by_cases hquotes : needsQuotes s = true
  · refine ⟨.afterQuote, ?_, .inr (.inl rfl)⟩
    have hopen : (encodeChar '"').foldl step ⟨records, cells, [], place⟩ =
        ⟨records, cells, [], .inQuotes⟩ := by
      obtain rfl | rfl := hplace <;> rfl
    rw [writeCell, if_pos hquotes, ← doubled, List.cons_append,
      List.flatMap_cons, List.flatMap_append, List.foldl_append, hopen,
      List.foldl_append, foldl_doubled, List.append_nil]
    rfl
  · rw [Bool.not_eq_true] at hquotes
    rw [writeCell, hquotes, if_neg Bool.false_ne_true]
    by_cases hempty : s = ""
    · subst hempty
      exact ⟨place, rfl, .inr (.inr ⟨rfl, rfl⟩)⟩
    · refine ⟨.plain, ?_, .inl rfl⟩
      rw [needsQuotes, List.any_eq_false] at hquotes
      have hplain : ∀ c ∈ s.toList,
          (c ≠ ',' ∧ c ≠ '\r' ∧ c ≠ '\n') ∧ c ≠ '"' := by
        intro c hc
        have hnot := hquotes c hc
        simp only [Bool.or_eq_true, beq_iff_eq, not_or] at hnot
        exact ⟨⟨hnot.1.1.1, hnot.1.2, hnot.2⟩, hnot.1.1.2⟩
      refine foldl_unquoted hplace ?_ (fun b hb => ?_) fun hb => ?_
      · obtain ⟨c, cs, hcs⟩ :=
          List.exists_cons_of_ne_nil (mt String.toList_eq_nil_iff.1 hempty)
        rw [hcs, List.flatMap_cons]
        exact List.append_ne_nil_of_left_ne_nil (Text.encodeChar_ne_nil c) _
      · obtain ⟨c, hc, hb⟩ := List.mem_flatMap.1 hb
        exact isPlain_of_mem_encodeChar hb (hplain c hc).1
      · obtain ⟨c, hc, hb⟩ := List.mem_flatMap.1 hb
        exact quoteByte_not_mem_encodeChar (hplain c hc).2 hb

theorem writeCell_eq_nil_iff {s : String} : writeCell s = [] ↔ s = "" := by
  rw [writeCell]
  split
  · next hquotes =>
      refine ⟨fun h => absurd h (List.cons_ne_nil _ _), ?_⟩
      rintro rfl
      exact absurd hquotes (by decide)
  · exact String.toList_eq_nil_iff

/-! ## Records -/

/-- A line of cells is read up to its line feed, unless it is empty and stands
at the start of a record. -/
theorem foldl_joinCells {line : List String} (hne : line ≠ [])
    (hplace : place = .cellStart ∨ place = .recordStart ∧
      joinCells (line.map writeCell) ≠ []) :
    ((joinCells (line.map writeCell) ++ ['\n']).flatMap encodeChar).foldl step
        ⟨records, cells, [], place⟩ =
      ⟨(cells.reverse ++ line.map encodeUtf8) :: records, [], [],
        .recordStart⟩ := by
  -- Only the first cell can stand at the start of a record: the hypothesis
  -- is for a cell start.
  induction line generalizing cells place with
  | nil => exact absurd rfl hne
  | cons s line ih =>
      obtain ⟨behind, hcell, hbehind⟩ := foldl_writeCell records cells
        (hplace.elim .inr fun h => .inl h.1) s
      cases line with
      | nil =>
          have hend : behind = .cellStart ∨ behind = .plain ∨
              behind = .afterQuote := by
            obtain rfl | rfl | ⟨rfl, rfl⟩ := hbehind
            · exact .inr (.inl rfl)
            · exact .inr (.inr rfl)
            · exact .inl (hplace.resolve_right fun h => h.2 rfl)
          rw [List.map_singleton, joinCells, List.flatMap_append,
            List.foldl_append, hcell]
          exact (step_lineFeed hend).trans (by simp)
      | cons next line =>
          have hcomma : behind ≠ .inQuotes := by
            obtain rfl | rfl | ⟨rfl, -⟩ := hbehind
            · decide
            · decide
            · obtain rfl | ⟨rfl, -⟩ := hplace <;> decide
          have hjoin :
              (joinCells ((s :: next :: line).map writeCell) ++ ['\n']).flatMap
                  encodeChar =
                (writeCell s).flatMap encodeChar ++ commaByte ::
                  (joinCells ((next :: line).map writeCell) ++ ['\n']).flatMap
                    encodeChar := by
            simp only [List.map_cons, joinCells, List.append_assoc,
              List.cons_append, List.flatMap_append, List.flatMap_cons]
            rfl
          rw [hjoin, List.foldl_append, hcell, List.foldl_cons,
            step_comma hcomma, ih (List.cons_ne_nil _ _) (.inl rfl),
            List.reverse_reverse, List.reverse_cons, List.append_assoc,
            List.singleton_append, ← List.map_cons]

theorem foldl_writeRecord {line : List String} (hne : line ≠ []) :
    ((writeRecord line).flatMap encodeChar).foldl step
      ⟨records, [], [], .recordStart⟩ =
      ⟨line.map encodeUtf8 :: records, [], [], .recordStart⟩ := by
  by_cases hempty : joinCells (line.map writeCell) = []
  · obtain rfl : line = [""] := by
      match line with
      | [] => exact absurd rfl hne
      | [s] => rw [writeCell_eq_nil_iff.1 hempty]
      | s :: next :: line => simp [joinCells] at hempty
    rfl
  · rw [writeRecord, List.isEmpty_eq_false_iff.2 hempty,
      if_neg Bool.false_ne_true]
    exact foldl_joinCells hne (.inr ⟨rfl, hempty⟩)

theorem foldl_writeRecords {file : List (List String)}
    (hne : ∀ line ∈ file, line ≠ []) :
    ((file.flatMap writeRecord).flatMap encodeChar).foldl step
      ⟨records, [], [], .recordStart⟩ =
      ⟨(file.map (·.map encodeUtf8)).reverse ++ records, [], [],
        .recordStart⟩ := by
  induction file generalizing records with
  | nil => rfl
  | cons line file ih =>
      rw [List.flatMap_cons, List.flatMap_append, List.foldl_append,
        foldl_writeRecord (hne line (List.mem_cons_self ..)),
        ih fun line hline => hne line (List.mem_cons_of_mem _ hline),
        List.map_cons, List.reverse_cons, List.append_assoc,
        List.singleton_append]

/-! ## Files -/

/-- Only the character of the byte order mark has its bytes. -/
theorem dropMark_encodeUtf8 {s : String}
    (h : ∀ c ∈ s.toList.head?, c ≠ '\uFEFF') :
    dropMark (encodeUtf8 s) = encodeUtf8 s := by
  unfold dropMark
  split
  · next rest hbytes =>
      have hmark : encodeUtf8 s = encodeChar '\uFEFF' ++ rest := hbytes
      have hread := Text.decodeFrom_encodeUtf8 s
      rw [hmark, Text.reads_encodeChar, Prod.mk.injEq] at hread
      have hhead : s.toList.head? = some '\uFEFF' := by
        rw [← hread.2]
        rfl
      exact absurd rfl (h _ hhead)
  · rfl

/-- A line begins with its first cell, a quote or a comma. -/
theorem head_writeRecord {s : String} (h : ∀ c ∈ s.toList.head?, c ≠ '\uFEFF')
    (line : List String) :
    ∀ c ∈ (writeRecord (s :: line)).head?, c ≠ '\uFEFF' := by
  have hjoin : joinCells ((s :: line).map writeCell) =
      writeCell s ++
        (if line = [] then [] else ',' :: joinCells (line.map writeCell)) := by
    cases line <;> simp [joinCells]
  rw [writeRecord, hjoin]
  cases hcell : writeCell s with
  | nil => cases line <;> simp
  | cons c cs =>
      have hc : c = '"' ∨ c ∈ s.toList.head? := by
        rw [writeCell] at hcell
        split at hcell
        · exact .inl (List.cons.inj hcell).1.symm
        · exact .inr (by rw [hcell]; rfl)
      intro d hd
      obtain rfl : c = d := by simpa using hd
      obtain rfl | hc := hc
      · decide
      · exact h c hc

/-- What is written is read, unless it begins with a byte order mark. -/
theorem read_write {s : String} {line : List String} {file : List (List String)}
    (hmark : ∀ c ∈ s.toList.head?, c ≠ '\uFEFF')
    (hne : ∀ line ∈ file, line ≠ []) :
    read (encodeUtf8 (write ((s :: line) :: file))) =
      some (s :: line) :: file.map some := by
  have hstart : ∀ c ∈ (write ((s :: line) :: file)).toList.head?,
      c ≠ '\uFEFF' := by
    have hrecord : writeRecord (s :: line) ≠ [] := by simp [writeRecord]
    rw [write, String.toList_ofList, List.flatMap_cons,
      List.head?_append_of_ne_nil _ hrecord]
    exact head_writeRecord hmark line
  have hbytes : encodeUtf8 (write ((s :: line) :: file)) =
      (((s :: line) :: file).flatMap writeRecord).flatMap encodeChar := by
    rw [encodeUtf8, write, String.toList_ofList]
  have hdecode : ∀ line : List String,
      (line.map encodeUtf8).mapM decodeUtf8? = some line := by
    intro line
    induction line with
    | nil => rfl
    | cons s line ih => simp [ih]
  have hlines : ∀ l ∈ (s :: line) :: file, l ≠ [] :=
    List.forall_mem_cons.2 ⟨List.cons_ne_nil _ _, hne⟩
  rw [read, readBytes, dropMark_encodeUtf8 hstart, hbytes, State.start,
    foldl_writeRecords hlines]
  dsimp only
  rw [if_pos rfl, List.append_nil, List.reverse_reverse, List.map_map,
    ← List.map_cons]
  exact List.map_congr_left fun line _ => hdecode line

end TenantTables.Csv
