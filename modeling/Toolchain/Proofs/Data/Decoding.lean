import Toolchain.Data.Tree
import Toolchain.Proofs.Dict

/-!
# Decoding what was written

A tree that was written comes back through JSON with the keys of its tables in order, whatever
order they were written in. Lists and maps are decoded value by value; a record is decoded
entry by entry, and since every entry fills its own field, the order makes no difference.

  * `Json.value` — a tree as JSON holds it.

## Main statements

  * `Json.value_table_of_sorted` — tables that are in key order stay as they are.
  * `Decoder.each_map`, `Decoder.mapping_written` — lists and maps are decoded to what they
    were.
  * `Decoder.Shape.decode_value` — a record is decoded to as much as was written of it.
-/

namespace Toolchain

/-! ## JSON values -/

namespace Json

mutual

/-- A tree as JSON holds it: the keys of a table are in order, the last of equal keys counting. -/
def value : Data → Data
  | .list items => .list (valueAll items)
  | .table entries => .table (Dict.ofList (valueEntries entries)).toList
  | d => d

def valueAll : List Data → List Data
  | [] => []
  | d :: rest => value d :: valueAll rest

def valueEntries : List (String × Data) → List (String × Data)
  | [] => []
  | (k, d) :: rest => (k, value d) :: valueEntries rest

end

theorem valueAll_eq (ds : List Data) : valueAll ds = ds.map value := by
  induction ds with
  | nil => rw [valueAll, List.map_nil]
  | cons d ds ih => rw [valueAll, ih, List.map_cons]

theorem valueEntries_eq (es : List (String × Data)) :
    valueEntries es = es.map fun e => (e.1, value e.2) := by
  induction es with
  | nil => rw [valueEntries, List.map_nil]
  | cons e es ih => rw [valueEntries, ih, List.map_cons]

@[simp] theorem value_null : value .null = .null := by simp [value]

@[simp] theorem value_boolean (b : Bool) : value (.boolean b) = .boolean b := by simp [value]

@[simp] theorem value_text (s : String) : value (.text s) = .text s := by simp [value]

@[simp] theorem value_texts (ss : List String) : value (.texts ss) = .texts ss := by
  have hmap : (ss.map .text).map value = ss.map Data.text := by
    rw [List.map_map]
    exact List.map_congr_left fun s _ => value_text s
  rw [Data.texts, value, valueAll_eq, hmap]

theorem value_table (es : List (String × Data)) :
    value (.table es) = .table (Dict.ofList (es.map fun e => (e.1, value e.2))).toList := by
  rw [value, valueEntries_eq]

/-- A table in key order stays as it is, if what is in it does. -/
theorem value_table_of_sorted {es : List (String × Data)} (hsorted : KeySorted es)
    (hvalues : ∀ e ∈ es, value e.2 = e.2) : value (.table es) = .table es := by
  have hmap : es.map (fun e => (e.1, value e.2)) = es := by
    conv_rhs => rw [← List.map_id es]
    refine List.map_congr_left fun e he => ?_
    rw [hvalues e he]
    rfl
  rw [value_table, hmap, Dict.toList_ofList hsorted]

/-- So does a map that was written entry by entry. -/
theorem value_dict {α : Type} {write : α → Data} (hwrite : ∀ x, value (write x) = write x)
    (d : Dict α) :
    value (.table (d.toList.map fun e => (e.1, write e.2))) =
      .table (d.toList.map fun e => (e.1, write e.2)) := by
  refine value_table_of_sorted (List.pairwise_map.2 d.sorted) fun e he => ?_
  obtain ⟨x, -, rfl⟩ := List.mem_map.1 he
  exact hwrite x.2

@[simp] theorem value_textTable (d : Dict String) : value (.textTable d) = .textTable d :=
  value_dict value_text d

end Json

/-! ## Lists and maps -/

namespace Decoder

variable {α : Type} {decode : Decoder α} {write : α → Data}

theorem each_map {xs : List α} (h : ∀ x ∈ xs, decode (write x) = .ok x) :
    each decode (xs.map write) = .ok xs := by
  induction xs with
  | nil => rfl
  | cons x xs ih =>
    have hx : decode (write x) = .ok x := h x List.mem_cons_self
    rw [List.map_cons, each, hx]
    dsimp only
    rw [ih fun y hy => h y (List.mem_cons_of_mem x hy)]
    rfl

theorem each_text (ss : List String) : each text (ss.map .text) = .ok ss := each_map fun _ _ => rfl

theorem each_path (ps : List Path) : each path ((ps.map Path.text).map .text) = .ok ps := by
  rw [List.map_map]
  exact each_map fun _ _ => rfl

theorem eachEntry_map (h : ∀ x, decode (write x) = .ok x) (es : List (String × α))
    (acc : Dict α) :
    eachEntry decode acc (es.map fun e => (e.1, write e.2)) =
      .ok (es.foldl (fun d e => d.insert e.1 e.2) acc) := by
  induction es generalizing acc with
  | nil => rfl
  | cons e es ih =>
    rw [List.map_cons, eachEntry, h e.2]
    exact ih (acc.insert e.1 e.2)

/-- A map is decoded to what it was. -/
theorem mapping_written (h : ∀ x, decode (write x) = .ok x) (d : Dict α) :
    mapping decode (.table (d.toList.map fun e => (e.1, write e.2))) = .ok d := by
  have hd : d.toList.foldl (fun d e => d.insert e.1 e.2) Dict.empty = d := Dict.ofList_toList d
  show eachEntry decode Dict.empty (d.toList.map fun e => (e.1, write e.2)) = _
  rw [eachEntry_map h, hd]

theorem mapping_textTable (d : Dict String) : mapping text (.textTable d) = .ok d :=
  have htext : ∀ s, text (.text s) = .ok s := fun _ => rfl
  mapping_written htext d

theorem optional_of_ne_null {d : Data} (hd : d ≠ .null) :
    optional decode d = (decode d).map some := by
  unfold optional
  split
  · exact absurd rfl hd
  · rfl

/-! ## Records -/

variable {σ : Type}

/-- A record is read entry by entry. `view` is the record with as many fields as were read; an
entry adds its own. -/
theorem eachField_view {take : σ → String → Data → Except DecodeFault σ}
    {view : List String → σ} {es : List (String × Data)}
    (h : ∀ e ∈ es, ∀ seen, take (view seen) e.1 e.2 = .ok (view (e.1 :: seen)))
    (seen : List String) :
    eachField take (view seen) es = .ok (view ((es.map Prod.fst).reverse ++ seen)) := by
  induction es generalizing seen with
  | nil => rfl
  | cons e es ih =>
    rw [eachField, h e List.mem_cons_self seen]
    dsimp only
    rw [ih (fun d hd => h d (List.mem_cons_of_mem e hd)) (e.1 :: seen)]
    simp

/-- A record is decoded from JSON to what was written of it: `seen` are the keys that were
written. -/
theorem Shape.decode_value (shape : Shape σ) (dialect : Dialect) (view : List String → σ)
    (hstart : view [] = shape.start) {es : List (String × Data)}
    (hnodup : (es.map Prod.fst).Nodup)
    (h : ∀ e ∈ es, ∀ seen,
      shape.take dialect (view seen) e.1 (Json.value e.2) = .ok (view (e.1 :: seen))) :
    ∃ seen, (∀ k, k ∈ seen ↔ k ∈ es.map Prod.fst) ∧
      shape.decode dialect (Json.value (.table es)) = .ok (view seen) := by
  let values := es.map fun e => (e.1, Json.value e.2)
  have hkeys : values.map Prod.fst = es.map Prod.fst := by simp [values]
  have hnodup' : (values.map Prod.fst).Nodup := hkeys ▸ hnodup
  have hmem : ∀ e, e ∈ (Dict.ofList values).toList ↔ e ∈ values :=
    fun e => Dict.mem_toList_ofList_iff hnodup'
  refine ⟨((Dict.ofList values).toList.map Prod.fst).reverse ++ [], fun k => ?_, ?_⟩
  · rw [← hkeys, List.append_nil, List.mem_reverse]
    simp only [List.mem_map, hmem]
  · rw [Json.value_table]
    show eachField (shape.take dialect) shape.start (Dict.ofList values).toList = _
    rw [← hstart]
    -- sorting the keys has changed the order of the entries alone
    refine eachField_view (fun e he => ?_) []
    obtain ⟨x, hx, rfl⟩ := List.mem_map.1 ((hmem e).1 he)
    exact h x hx

end Decoder

end Toolchain
