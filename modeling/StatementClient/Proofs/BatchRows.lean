import Mathlib
import StatementClient.Proofs.CompactRead
import StatementClient.Session.Client

/-!
# Rows from columnar batches

Batches by column (`Columns`), handed in as an array of objects from column names to arrays
(`columnar`), encode as one line per row. When every batch's columns have one length
(`Columns.Even`), the rows of all batches in order (`batchRows`) are written one by one
(`writeRow`), and the first that the writer refuses (`rowsFault?`: nested deeper than its stack
has room for, or holding an integer of more than 4300 digits) refuses the batches. Otherwise the
lines are the compact texts of the rows, each read back as its row when the reader gives it back
(`Json.Storable`). The first batch whose columns differ in length is reported by its index and its
column lengths, unless a row before it was refused (`raggedFault`), and ingesting batches that do
not encode fails before anything is sent.

Main statement: `batches_encode_as_rows`.
-/

namespace StatementClient

open Json Text

/-- A batch by columns: each column's name and items. -/
abbrev Columns := List (String × List Json)

namespace Columns

/-- The batch as a caller hands it in: an object from column names to arrays. -/
def toJson (b : Columns) : Json := .obj (b.map fun (k, col) => (k, .arr col))

/-- All columns have the same length. -/
def Even (b : Columns) : Prop := ∀ c ∈ b, ∀ c' ∈ b, c.2.length = c'.2.length

instance (b : Columns) : Decidable b.Even :=
  inferInstanceAs (Decidable (∀ c ∈ b, ∀ c' ∈ b, c.2.length = c'.2.length))

/-- Row `i`: each column's name with its item `i`. -/
def row (b : Columns) (i : ℕ) : List (String × Json) := b.map fun (k, col) => (k, col.getD i .null)

/-- The rows, as many as the first column has items; a batch without columns has none. -/
def rows : Columns → List (List (String × Json))
  | [] => []
  | b@((_, first) :: _) => (List.range first.length).map (row b)

/-- The column lengths a ragged batch is reported with. -/
def lengths (b : Columns) : List (String × ℕ) := b.map fun (k, col) => (k, col.length)

end Columns

/-- Batches as a caller hands them in. -/
def columnar (bs : List Columns) : Json := .arr (bs.map Columns.toJson)

/-- The rows of all batches, batch after batch. -/
def batchRows (bs : List Columns) : List (List (String × Json)) := bs.flatMap Columns.rows

/-- A row as the encoder writes it with room for `room` containers: its compact text, or the
writer's fault. -/
def writeRow (room : ℕ) (row : List (String × Json)) : Except RowsFault String :=
  ((Json.obj row).dump room).mapError .unwritable

/-- The first fault met writing rows, in their order. -/
def rowsFault? (room : ℕ) (rows : List (List (String × Json))) : Option Json.DumpFault :=
  rows.findSome? fun r => (Json.obj r).dumpFault? room

/-- What batches are refused with when `b`, after the even batches `pre`, is the first ragged one:
the first fault writing a row of `pre`, else `b`'s index and column lengths. -/
def raggedFault (room : ℕ) (pre : List Columns) (b : Columns) : RowsFault :=
  match rowsFault? room (batchRows pre) with
  | some f => .unwritable f
  | none => .unequal pre.length b.lengths

/-! ## Encoding batch by batch -/

theorem mapM_columnLength : ∀ b : Columns,
    (b.map fun (k, col) => (k, Json.arr col)).mapM (fun (k, v) => do pure (k, ← columnLength v)) =
      .ok b.lengths
  | [] => rfl
  | (k, col) :: b => by
    rw [List.map_cons, List.mapM_cons, mapM_columnLength b]
    rfl

theorem mapM_columnItem (row : ℕ) : ∀ b : Columns,
    (b.map fun (k, col) => (k, Json.arr col)).mapM (fun (k, v) => do pure (k, ← columnItem row v)) =
      .ok (b.row row)
  | [] => rfl
  | (k, col) :: b => by
    rw [List.map_cons, List.mapM_cons, mapM_columnItem row b]
    rfl

theorem except_ok_bind {ε α β : Type} (a : α) (f : α → Except ε β) : (Except.ok a >>= f) = f a :=
  rfl

theorem writeRow_of_none {room : ℕ} {row : List (String × Json)}
    (h : (Json.obj row).dumpFault? room = none) : writeRow room row = .ok (Json.obj row).compact := by
  rw [writeRow, Json.dump, h]
  rfl

theorem writeRow_of_some {room : ℕ} {row : List (String × Json)} {f : Json.DumpFault}
    (h : (Json.obj row).dumpFault? room = some f) : writeRow room row = .error (.unwritable f) := by
  rw [writeRow, Json.dump, h]
  rfl

theorem mapM_writeRow_of_none {room : ℕ} :
    ∀ {rows : List (List (String × Json))}, rowsFault? room rows = none →
      rows.mapM (writeRow room) = .ok (rows.map fun r => (Json.obj r).compact)
  | [], _ => rfl
  | r :: rows, h => by
    rw [rowsFault?, List.findSome?_eq_none_iff] at h
    have hrows : rowsFault? room rows = none :=
      List.findSome?_eq_none_iff.2 fun x hx => h x (List.mem_cons_of_mem r hx)
    rw [List.mapM_cons, writeRow_of_none (h r List.mem_cons_self),
      mapM_writeRow_of_none hrows]
    rfl

theorem mapM_writeRow_of_some {room : ℕ} {f : Json.DumpFault} :
    ∀ {rows : List (List (String × Json))}, rowsFault? room rows = some f →
      rows.mapM (writeRow room) = .error (.unwritable f)
  | [], h => by cases h
  | r :: rows, h => by
    rw [rowsFault?, List.findSome?_cons] at h
    rw [List.mapM_cons]
    rcases hr : (Json.obj r).dumpFault? room with _ | g
    · rw [hr] at h
      rw [writeRow_of_none hr, mapM_writeRow_of_some h]
      rfl
    · rw [hr] at h
      cases h
      rw [writeRow_of_some hr]
      rfl

/-- An even batch writes its rows, row after row. -/
theorem encodeBatch_even (room index : ℕ) {b : Columns} (hb : b.Even) :
    encodeBatch room index b.toJson = b.rows.mapM (writeRow room) := by
  match b with
  | [] => rfl
  | (k, first) :: rest =>
    have hlen := mapM_columnLength ((k, first) :: rest)
    have hcells := fun row => mapM_columnItem row ((k, first) :: rest)
    have hany : (Columns.lengths ((k, first) :: rest)).any (fun x => x.2 != first.length) = false := by
      simp only [Columns.lengths, List.any_eq_false, List.mem_map, bne_iff_ne, ne_eq, not_not]
      rintro _ ⟨c, hc, rfl⟩
      exact hb c hc (k, first) List.mem_cons_self
    simp only [List.map_cons] at hlen hcells
    simp only [Columns.toJson, List.map_cons, encodeBatch, hlen, hcells,
      show columnLength (arr first) = .ok first.length from rfl, except_ok_bind, hany,
      Bool.false_eq_true, if_false]
    rw [Columns.rows, List.mapM_map]
    rfl

/-- A ragged batch is refused with its index and its column lengths. -/
theorem encodeBatch_ragged (room index : ℕ) {b : Columns} (hb : ¬ b.Even) :
    encodeBatch room index b.toJson = .error (.unequal index b.lengths) := by
  match b with
  | [] => exact absurd (fun c hc => by simp at hc) hb
  | (k, first) :: rest =>
    have hlen := mapM_columnLength ((k, first) :: rest)
    have hany : (Columns.lengths ((k, first) :: rest)).any (fun x => x.2 != first.length) = true := by
      by_contra h
      simp only [Bool.not_eq_true, Columns.lengths, List.any_eq_false, List.mem_map, bne_iff_ne,
        ne_eq, not_not, forall_exists_index, and_imp] at h
      refine hb fun c hc c' hc' => ?_
      have hc₁ := h _ c hc rfl
      have hc₂ := h _ c' hc' rfl
      simp only at hc₁ hc₂
      rw [hc₁, hc₂]
    simp only [List.map_cons] at hlen
    simp only [Columns.toJson, List.map_cons, encodeBatch, hlen,
      show columnLength (arr first) = .ok first.length from rfl, except_ok_bind, hany, if_true]
    rfl

/-! ## Encoding the batches -/

theorem Except.map_flatten_cons {ε α : Type} (x : Except ε (List α))
    (y : Except ε (List (List α))) :
    (x >>= fun a => y >>= fun as => pure (a :: as)).map List.flatten =
      x >>= fun a => y.map List.flatten >>= fun b => pure (a ++ b) := by
  cases x <;> cases y <;> rfl

theorem Except.cons_of_bind_error {ε α : Type} (x z : Except ε (List α)) (e : ε) :
    (x >>= fun a => (z >>= fun _ => (Except.error e : Except ε (List (List α)))) >>=
        fun as => pure (a :: as)) =
      (x >>= fun a => z >>= fun b => pure (a ++ b)) >>= fun _ => Except.error e := by
  cases x <;> cases z <;> rfl

theorem Except.bind_pure_flatten {ε α β : Type} (x : Except ε (List (List α))) (f : List α → β) :
    (x >>= fun rows => pure (f rows.flatten)) = (x.map List.flatten).map f := by
  cases x <;> rfl

theorem mapM_encodeBatch_even (room : ℕ) : ∀ (bs : List Columns) (n : ℕ), (∀ b ∈ bs, b.Even) →
    (((bs.map Columns.toJson).zipIdx n).mapM fun x => encodeBatch room x.2 x.1).map
      List.flatten = (batchRows bs).mapM (writeRow room)
  | [], _, _ => rfl
  | b :: bs, n, h => by
    have ih := mapM_encodeBatch_even room bs (n + 1) fun b' hb' => h b' (List.mem_cons_of_mem b hb')
    simp only [List.map_cons, List.zipIdx_cons, List.mapM_cons,
      encodeBatch_even room n (h b List.mem_cons_self), batchRows, List.flatMap_cons,
      List.mapM_append]
    rw [batchRows] at ih
    rw [Except.map_flatten_cons, ih]

theorem mapM_encodeBatch_ragged (room : ℕ) : ∀ (pre : List Columns) {b : Columns}
    (post : List Columns) (n : ℕ), (∀ b' ∈ pre, b'.Even) → ¬ b.Even →
    (((pre ++ b :: post).map Columns.toJson).zipIdx n).mapM (fun x => encodeBatch room x.2 x.1) =
      (batchRows pre).mapM (writeRow room) >>= fun _ => .error (.unequal (n + pre.length) b.lengths)
  | [], b, post, n, _, hb => by
    simp only [List.nil_append, List.map_cons, List.zipIdx_cons, List.mapM_cons,
      encodeBatch_ragged room n hb, List.length_nil, Nat.add_zero]
    rfl
  | b' :: pre, b, post, n, h, hb => by
    have ih := mapM_encodeBatch_ragged room pre post (n + 1)
      (fun b'' hb'' => h b'' (List.mem_cons_of_mem b' hb'')) hb
    simp only [List.cons_append, List.map_cons, List.zipIdx_cons, List.mapM_cons,
      encodeBatch_even room n (h b' List.mem_cons_self), ih, batchRows, List.flatMap_cons,
      List.mapM_append, List.length_cons, show n + 1 + pre.length = n + (pre.length + 1) by omega]
    exact Except.cons_of_bind_error _ _ _

theorem encodeBatches_even (room : ℕ) {bs : List Columns} (h : ∀ b ∈ bs, b.Even) :
    encodeBatches room (columnar bs) =
      ((batchRows bs).mapM (writeRow room)).map ("\n".intercalate ·) := by
  rw [← mapM_encodeBatch_even room bs 0 h]
  simp only [encodeBatches, columnar, walkItems, except_ok_bind]
  exact Except.bind_pure_flatten _ _

theorem encodeBatches_ragged (room : ℕ) {pre : List Columns} {b : Columns} (post : List Columns)
    (h : ∀ b' ∈ pre, b'.Even) (hb : ¬ b.Even) :
    encodeBatches room (columnar (pre ++ b :: post)) = .error (raggedFault room pre b) := by
  simp only [encodeBatches, columnar, walkItems, except_ok_bind]
  rw [mapM_encodeBatch_ragged room pre post 0 h hb, Nat.zero_add, raggedFault]
  rcases hf : rowsFault? room (batchRows pre) with _ | f
  · rw [mapM_writeRow_of_none hf]
    rfl
  · rw [mapM_writeRow_of_some hf]
    rfl

/-! ## The lines of the text -/

theorem splitOn_rows {rows : List (List (String × Json))} (hne : rows ≠ []) :
    (("\n".intercalate (rows.map fun r => (Json.obj r).compact)).toList.splitOn '\n').map
      String.ofList = rows.map fun r => (Json.obj r).compact := by
  rw [String.toList_intercalate, show "\n".toList = ['\n'] from rfl, List.splitOn_intercalate]
  · simp [List.map_map]
  · simp only [List.map_map, List.mem_map, Function.comp, forall_exists_index, and_imp]
    rintro _ r _ rfl
    exact newline_not_mem_compact (.obj r)
  · simpa using hne

theorem rows_text_eq_empty (rows : List (List (String × Json))) :
    "\n".intercalate (rows.map fun r => (Json.obj r).compact) = "" ↔ rows = [] := by
  constructor
  · intro h
    cases rows with
    | nil => rfl
    | cons r rest =>
      obtain ⟨c, cs, hcs, -⟩ := compact_opens (.obj r)
      have h' := congrArg String.toList h
      rw [String.toList_intercalate] at h'
      simp [hcs] at h'
  · rintro rfl
    rfl

/-! ## Rows from columnar batches -/

/-- Batches that do not encode are refused before anything is sent: the world, the counts and the
fuel are as they were. -/
theorem Client.ingestBatch_refused {σ : Type} (c : Client) (port : Port σ) {batches : Json}
    {f : RowsFault} (h : encodeBatches ingestRoom batches = .error f) (statement : Json) (fuel : ℕ)
    (s : σ) (m : Metrics) :
    c.ingestBatch port batches statement fuel s m = Run.fail s m fuel (.unencodable f) := by
  unfold Client.ingestBatch
  rw [h]

/-- Rows from columnar batches, the writer having room for `room` containers. When every batch's
columns have one length, the batches are refused with the first fault writing a row, in order;
otherwise they encode, the text is empty exactly when there are no rows, and its lines are the
rows of all batches in order, batch after batch and row after row, each the compact text of its
row and read back as that row whenever the reader gives the row back; a batch without columns or
rows gives no line. When `b` is the first ragged batch, after the even batches `pre`, the batches
are refused with the first fault writing a row of `pre`, else with a `ValueError` naming `b`'s
index `pre.length` and its column lengths, and ingesting them fails with that fault before
anything is sent: the world, the counts and the fuel are as they were. -/
theorem batches_encode_as_rows (room : ℕ) (bs : List Columns) :
    ((∀ b ∈ bs, b.Even) →
      (∀ f, rowsFault? room (batchRows bs) = some f →
        encodeBatches room (columnar bs) = .error (.unwritable f)) ∧
      (rowsFault? room (batchRows bs) = none →
        ∃ text, encodeBatches room (columnar bs) = .ok text ∧ (text = "" ↔ batchRows bs = []) ∧
          (batchRows bs ≠ [] →
            List.Forall₂ (fun line row => line = (Json.obj row).compact ∧
                ((Json.obj row).Storable 970 → readText .lenient line = .ok (.obj row)))
              ((text.toList.splitOn '\n').map String.ofList) (batchRows bs)))) ∧
    ∀ (pre : List Columns) (b : Columns) (post : List Columns), bs = pre ++ b :: post →
      (∀ b' ∈ pre, b'.Even) → ¬ b.Even →
      encodeBatches room (columnar bs) = .error (raggedFault room pre b) ∧
      (rowsFault? room (batchRows pre) = none →
        raggedFault room pre b = .unequal pre.length b.lengths ∧
        (RowsFault.unequal pre.length b.lengths).className = "ValueError" ∧
        ∃ detail, (RowsFault.unequal pre.length b.lengths).message =
          "batch " ++ toString pre.length ++ " has columns of unequal length: " ++ detail) ∧
      ∀ {σ : Type} (c : Client) (port : Port σ) (statement : Json) (fuel : ℕ) (s : σ)
        (m : Metrics), c.ingestBatch port (columnar bs) statement fuel s m =
          Run.fail s m fuel (.unencodable (raggedFault ingestRoom pre b)) := by
  refine ⟨fun h => ⟨fun f hf => ?_, fun hnone => ?_⟩, fun pre b post hbs hpre hb => ?_⟩
  · rw [encodeBatches_even room h, mapM_writeRow_of_some hf]
    rfl
  · rw [encodeBatches_even room h, mapM_writeRow_of_none hnone]
    refine ⟨_, rfl, rows_text_eq_empty _, fun hne => ?_⟩
    rw [splitOn_rows hne, List.forall₂_map_left_iff]
    exact List.forall₂_same.mpr fun row _ => ⟨rfl, readText_compact⟩
  · subst hbs
    refine ⟨encodeBatches_ragged room post hpre hb,
      fun hnone => ⟨by rw [raggedFault, hnone], rfl, _, rfl⟩, fun c port statement fuel s m => ?_⟩
    exact c.ingestBatch_refused port (encodeBatches_ragged ingestRoom post hpre hb) statement fuel s m

/-- One even batch writes its row, read back as the row; a second, ragged batch after it is
refused, naming batch `1` and its column lengths. -/
theorem ragged_second_batch_refused :
    (∃ text, encodeBatches ingestRoom (columnar [[("a", [.int 1]), ("b", [.str "x"])]]) =
        .ok text ∧
      (text = "" ↔ batchRows [[("a", [.int 1]), ("b", [.str "x"])]] = []) ∧
      (batchRows [[("a", [.int 1]), ("b", [.str "x"])]] ≠ [] →
        List.Forall₂ (fun line row => line = (Json.obj row).compact ∧
            ((Json.obj row).Storable 970 → readText .lenient line = .ok (.obj row)))
          ((text.toList.splitOn '\n').map String.ofList)
          (batchRows [[("a", [.int 1]), ("b", [.str "x"])]]))) ∧
    encodeBatches ingestRoom (columnar [[("a", [.int 1])], [("a", [.int 1]), ("b", [])]]) =
      .error (.unequal 1 [("a", 1), ("b", 0)]) := by
  refine ⟨((batches_encode_as_rows ingestRoom _).1 (by decide)).2 (by decide), ?_⟩
  rw [((batches_encode_as_rows ingestRoom [[("a", [.int 1])], [("a", [.int 1]), ("b", [])]]).2
    [[("a", [.int 1])]] [("a", [.int 1]), ("b", [])] [] rfl (by decide) (by decide)).1]
  rfl

/-- Arrays nested `n + 1` deep, the innermost empty. -/
def nestedArrays : ℕ → Json
  | 0 => .arr []
  | n + 1 => .arr [nestedArrays n]

theorem dumpFault_nestedArrays : ∀ {room n : ℕ}, room ≤ n →
    Json.dumpFault? room (nestedArrays n) = some .stackExhausted
  | 0, 0, _ => rfl
  | 0, _ + 1, _ => rfl
  | room + 1, n + 1, h => by
    rw [nestedArrays, Json.dumpFault?, Json.itemsFault?, dumpFault_nestedArrays (by omega)]
    rfl

/-- A column holding one array nested 979 deep makes an even batch, but its row is one container
more, deeper than the writer has room for inside a call: the batches are refused with
`RecursionError`, so ingesting them fails before anything is sent (`Client.ingestBatch_refused`). -/
theorem deep_cell_refused_on_ingest :
    Columns.Even [("a", [nestedArrays 978])] ∧
      encodeBatches ingestRoom (columnar [[("a", [nestedArrays 978])]]) =
        .error (.unwritable .stackExhausted) := by
  have heven : Columns.Even [("a", [nestedArrays 978])] := by
    simp [Columns.Even]
  have hfault : rowsFault? ingestRoom (batchRows [[("a", [nestedArrays 978])]]) =
      some .stackExhausted := by
    rw [show batchRows [[("a", [nestedArrays 978])]] = [[("a", nestedArrays 978)]] from rfl,
      rowsFault?, List.findSome?_cons, ingestRoom, Json.dumpFault?, Json.fieldsFault?,
      dumpFault_nestedArrays (by omega)]
    rfl
  refine ⟨heven, ?_⟩
  rw [encodeBatches_even ingestRoom (by simpa using heven), mapM_writeRow_of_some hfault]
  rfl

end StatementClient
