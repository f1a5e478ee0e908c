import WiringQuote.Pricing.PriceTable
import WiringQuote.Proofs.OrderedMap

/-!
# A table of prices is a map for each row

All rows of a price list share the columns of one table, and a cell may belong to a location that only
other rows name. Yet each product has the price that its last row alone gives it.

* `find?_keepLast`: of several rows for one product the last one is found.
* `number?_cellsOf`: a number is found in a column exactly if the row itself has it.
* `priceIn_cellsOf`: the price of a row is that of its own base price and factor.
* `price?_ofRows`: the table gives the prices of the list.
* `price?_own`: the price of a product from its last row alone.
-/

namespace WiringQuote

/-- The price for a base price and a factor, each of which may be missing or undefined. -/
def Price.of (base factor : Option Float) : Price :=
  match base.filter (!·.isNaN), factor.filter (!·.isNaN) with
  | none, _ => ⟨0.0, .entity, true, false⟩
  | some base, some factor => ⟨base * factor, .entity, false, false⟩
  | some base, none => ⟨base * 1.0, .entity, false, true⟩

namespace PriceTable

variable {rows : List ProductPrice} {row : ProductPrice} {location productId : String}

/-! ## Rows -/

/-- Of several rows under one name the last one is found. -/
theorem find?_keepLast {α : Type} (rows : List (String × α)) (name : String) :
    (keepLast rows).find? (fun row => row.1 = name) =
      (rows.filter fun row => row.1 = name).getLast? := by
  induction rows with
  | nil => rfl
  | cons first rest ih =>
    unfold keepLast
    by_cases own : first.1 = name
    · rw [List.filter_cons_of_pos (by simpa using own), List.getLast?_cons]
      split
      · rename_i later
        -- Another row of the product comes later, so this one is not the last.
        obtain ⟨other, listed, same⟩ := List.any_eq_true.1 later
        have some : rest.filter (fun row => row.1 = name) ≠ [] := by
          refine List.ne_nil_of_mem (List.mem_filter.2 ⟨listed, ?_⟩)
          simpa [own] using same
        rw [ih, List.getLast?_eq_some_getLast some]
        rfl
      · rename_i none
        have empty : rest.filter (fun row => row.1 = name) = [] := by
          refine List.filter_eq_nil_iff.2 fun other listed same => none ?_
          exact List.any_eq_true.2 ⟨other, listed, by simpa [own] using same⟩
        rw [List.find?_cons_of_pos (by simpa using own), empty]
        rfl
    · rw [List.filter_cons_of_neg (by simpa using own), ← ih]
      split
      · rfl
      · rw [List.find?_cons_of_neg (by simpa using own)]

/-- The cells of a product are those of its last row. -/
theorem row?_ofRows (rows : List ProductPrice) (productId : String) :
    (ofRows rows).row? productId =
      (PriceList.row? ⟨rows⟩ productId).map (cellsOf (columnsOf rows)) := by
  unfold row? ofRows PriceList.row?
  dsimp only
  rw [find?_keepLast, List.filter_map, List.getLast?_map, Option.map_map]
  rfl

/-! ## Cells -/

/-- An empty cell holds no number. -/
theorem filter_blank : (some blank).filter (!·.isNaN) = none := by
  have undefined : blank.isNaN = true := by decide +kernel
  rw [Option.filter_some, undefined]
  rfl

/-- Every column that a row names is one of the table. -/
theorem mem_columnsOf (listed : row ∈ rows) {column : String} (named : column ∈ (record row).keys) :
    column ∈ columnsOf rows := by
  unfold columnsOf
  rw [if_neg (by simpa using List.ne_nil_of_mem listed), List.mem_eraseDups, List.mem_flatMap]
  exact ⟨row, listed, named⟩

theorem get_cellsOf {columns : List String} (row : ProductPrice) (i : Fin columns.length) :
    (cellsOf columns row).get i = ((record row).get? (columns.get i)).getD blank :=
  Vector.getElem_ofFn i.isLt

/-- A number is found in a column exactly if the row itself has it, whatever the columns of others. -/
theorem number?_cellsOf (listed : row ∈ rows) (column : String) :
    (ofRows rows).number? (cellsOf (columnsOf rows) row) column =
      ((record row).get? column).filter (!·.isNaN) := by
  show (((columnsOf rows).finIdxOf? column).map (cellsOf (columnsOf rows) row).get).filter _ = _
  cases found : (columnsOf rows).finIdxOf? column with
  | none =>
    have absent : (record row).get? column = none := by
      refine OrderedMap.get?_eq_none_iff.2 fun named => ?_
      exact List.finIdxOf?_eq_none_iff.1 found (mem_columnsOf listed named)
    rw [absent]
    rfl
  | some i =>
    have own : (columnsOf rows).get i = column := (List.finIdxOf?_eq_some_iff.1 found).1
    rw [Option.map_some, get_cellsOf, own]
    cases (record row).get? column with
    | none => exact filter_blank
    | some x => rfl

/-- What a row names: the base price under its own name, and its factors under those of the locations,
but for the two that are named like columns. -/
theorem get?_record (row : ProductPrice) (column : String) : (record row).get? column =
    if column = PriceList.baseColumn then some (row.basePrice.getD blank)
    else if column = PriceList.productColumn then none
    else row.factors.get? column := by
  unfold record
  rw [OrderedMap.get?_overlay, OrderedMap.get?_filterKeys, OrderedMap.get?_insert,
    OrderedMap.get?_empty]
  by_cases base : column = PriceList.baseColumn
  · subst base
    simp
  · have other : PriceList.baseColumn ≠ column := fun same => base same.symm
    rw [if_neg other, if_neg base]
    by_cases product : column = PriceList.productColumn
    · simp [product]
    · simp [base, product]

/-! ## Prices -/

theorem filter_getD_blank (base : Option Float) :
    (some (base.getD blank)).filter (!·.isNaN) = base.filter (!·.isNaN) := by
  cases base with
  | none => exact filter_blank
  | some x => rfl

/-- What a row itself has for a location. -/
def own? (row : ProductPrice) (location : String) : Option Float :=
  if location.isEmpty || location = PriceList.productColumn then none
  else if location = PriceList.baseColumn then row.basePrice
  else row.factors.get? location

section Listed

variable (listed : row ∈ rows)

include listed

theorem number?_base : (ofRows rows).number? (cellsOf (columnsOf rows) row) PriceList.baseColumn =
    row.basePrice.filter (!·.isNaN) := by
  rw [number?_cellsOf listed, get?_record, if_pos rfl, filter_getD_blank]

/-- At each location the table has the number of the row itself. -/
theorem factor?_cellsOf (location : String) :
    (ofRows rows).factor? (cellsOf (columnsOf rows) row) location =
      (own? row location).filter (!·.isNaN) := by
  unfold factor? own?
  rw [number?_cellsOf listed, get?_record]
  by_cases unnamed : location.isEmpty = true
  · rw [if_pos unnamed, if_pos (by rw [unnamed]; rfl)]
    rfl
  · rw [if_neg unnamed]
    by_cases product : location = PriceList.productColumn
    · have other : location ≠ PriceList.baseColumn := by
        rw [product]
        decide
      rw [if_neg other, if_pos product, if_pos (by simp [product])]
    · have outside : ¬ (location.isEmpty || location = PriceList.productColumn) = true := by
        simpa [product] using unnamed
      rw [if_neg product, if_neg outside]
      by_cases base : location = PriceList.baseColumn
      · rw [if_pos base, if_pos base, filter_getD_blank]
      · rw [if_neg base, if_neg base]

/-- The price in the table is that of the row itself. -/
theorem priceIn_cellsOf (location : Option String) :
    (ofRows rows).priceIn (cellsOf (columnsOf rows) row) location =
      Price.of row.basePrice (location.bind (own? row)) := by
  have factors : location.bind ((ofRows rows).factor? (cellsOf (columnsOf rows) row)) =
      (location.bind (own? row)).filter (!·.isNaN) := by
    cases location with
    | none => rfl
    | some name => exact factor?_cellsOf listed name
  unfold priceIn Price.of
  rw [number?_base listed, factors]
  cases row.basePrice.filter (!·.isNaN) with
  | none => rfl
  | some base => cases (location.bind (own? row)).filter (!·.isNaN) <;> rfl

end Listed

/-- In the list the base price is also the factor under the name of its column. -/
theorem factor?_eq {base : Float} (priced : row.basePrice.filter (!·.isNaN) = some base)
    (location : String) : PriceList.factor? row base location =
      (own? row location).filter (!·.isNaN) := by
  unfold PriceList.factor? own?
  split
  · rfl
  · split
    · exact priced.symm
    · rfl

/-- The price in the list is that of the row itself as well. -/
theorem price?_list (list : PriceList) (productId : String) (location : Option String) :
    list.price? productId location =
      (list.row? productId).map fun row => Price.of row.basePrice (location.bind (own? row)) := by
  unfold PriceList.price?
  refine congrArg (fun f => (list.row? productId).map f) (funext fun row => ?_)
  unfold Price.of PriceList.base?
  cases priced : row.basePrice.filter (!·.isNaN) with
  | none => rfl
  | some base =>
    have factors : location.bind (PriceList.factor? row base) =
        (location.bind (own? row)).filter (!·.isNaN) := by
      cases location with
      | none => rfl
      | some name => exact factor?_eq priced name
    dsimp only
    rw [factors]
    cases (location.bind (own? row)).filter (!·.isNaN) <;> rfl

/-- The table gives the prices of the list. -/
theorem price?_ofRows (rows : List ProductPrice) (productId : String) (location : Option String) :
    (ofRows rows).price? productId location = PriceList.price? ⟨rows⟩ productId location := by
  rw [price?_list]
  unfold price?
  rw [row?_ofRows]
  cases last : PriceList.row? ⟨rows⟩ productId with
  | none => rfl
  | some row =>
    have listed : row ∈ rows := (List.mem_filter.1 (List.mem_of_getLast? last)).1
    exact congrArg some (priceIn_cellsOf listed location)

/-! ## Prices from one row -/

/-- The list has no price exactly if no row is for the product. -/
theorem row?_eq_none_iff : PriceList.row? ⟨rows⟩ productId = none ↔
    ∀ row ∈ rows, row.productId ≠ productId := by
  unfold PriceList.row?
  rw [List.getLast?_eq_none_iff, List.filter_eq_nil_iff]
  simp

/-- The row that counts is the one with no other for the product after it. -/
theorem row?_of_last {before after : List ProductPrice} (own : row.productId = productId)
    (last : ∀ later ∈ after, later.productId ≠ productId) :
    PriceList.row? ⟨before ++ row :: after⟩ productId = some row := by
  have none : after.filter (fun row => row.productId = productId) = [] :=
    List.filter_eq_nil_iff.2 fun later listed => by simpa using last later listed
  unfold PriceList.row?
  rw [List.filter_append, List.filter_cons_of_pos (by simpa using own), none,
    List.getLast?_append, List.getLast?_singleton, Option.some_or]

/-- At a location that is not named like the base price column, a row has its factor, if it is not named
like the product column either. -/
theorem own?_eq (row : ProductPrice) (named : location ≠ "")
    (other : location ≠ PriceList.baseColumn) : own? row location =
      if location = PriceList.productColumn then none else row.factors.get? location := by
  unfold own?
  rw [if_neg other]
  by_cases product : location = PriceList.productColumn
  · rw [if_pos product, if_pos (by simp [product])]
  · rw [if_neg product, if_neg (by simp [named, product])]

/-- Without a base price no factor counts. -/
theorem of_unpriced {base : Option Float} (unpriced : base.filter (!·.isNaN) = none)
    (factor : Option Float) : Price.of base factor = ⟨0.0, .entity, true, false⟩ := by
  unfold Price.of
  rw [unpriced]

theorem price?_of_last (before after : List ProductPrice) (own : row.productId = productId)
    (last : ∀ later ∈ after, later.productId ≠ productId) (named : location ≠ "")
    (other : location = PriceList.baseColumn → row.basePrice.filter (!·.isNaN) = none) :
    (ofRows (before ++ row :: after)).price? productId (some location) = some (Price.of row.basePrice
      (if location = PriceList.productColumn then none else row.factors.get? location)) := by
  rw [price?_ofRows, price?_list, row?_of_last own last]
  refine congrArg some ?_
  show Price.of row.basePrice (own? row location) = _
  by_cases fixed : location = PriceList.baseColumn
  · rw [of_unpriced (other fixed), of_unpriced (other fixed)]
  · rw [own?_eq row named fixed]

/-- A product without a row has no price, and any other has that of its last row: no other row counts, no
factor of this row for another location, and none for a location named like the product column. Left open
is the factor at a location named like the base price column. -/
theorem price?_own (rows : List ProductPrice) (productId location : String)
    (named : location ≠ "") :
    (ofRows rows).price? productId (some location) =
      PriceList.price? ⟨rows⟩ productId (some location) ∧
    ((ofRows rows).price? productId (some location) = none ↔
      ∀ row ∈ rows, row.productId ≠ productId) ∧
    ∀ before row after, rows = before ++ row :: after → row.productId = productId →
      (∀ later ∈ after, later.productId ≠ productId) →
      (location = PriceList.baseColumn → row.basePrice.filter (!·.isNaN) = none) →
      (ofRows rows).price? productId (some location) = some (Price.of row.basePrice
        (if location = PriceList.productColumn then none else row.factors.get? location)) := by
  refine ⟨price?_ofRows _ _ _, ?_, ?_⟩
  · unfold price?
    rw [Option.map_eq_none_iff, row?_ofRows]
    exact Option.map_eq_none_iff.trans row?_eq_none_iff
  · rintro before row after rfl own last other
    exact price?_of_last before after own last named other

/-- Two rows of one product, between them one of another product, each with a factor for one location. -/
def threeRows : List ProductPrice := [
  ⟨"SKT", some 4.0, OrderedMap.empty.insert "Köln" 3.0⟩,
  ⟨"SWI", some 5.0, OrderedMap.empty.insert "Hamburg" 2.0⟩,
  ⟨"SKT", some 10.0, OrderedMap.empty.insert "Hamburg" 1.5⟩]

/-- The factor of the first row does not count for the last one. -/
theorem threeRows_own : "Köln" ≠ "" ∧ "Köln" ≠ PriceList.baseColumn ∧
    (ofRows threeRows).price? "SKT" (some "Köln") = some (Price.of (some 10.0) none) := by
  have named : "Köln" ≠ "" := by decide
  have other : "Köln" ≠ PriceList.baseColumn := by decide
  obtain ⟨_, _, last⟩ := price?_own threeRows "SKT" "Köln" named
  exact ⟨named, other, last (threeRows.take 2) _ [] rfl rfl (fun _ listed => nomatch listed)
    fun fixed => absurd fixed other⟩

/-- A factor for a location that is named like the product column. -/
def productFactor : ProductPrice :=
  ⟨"SKT", some 10.0, OrderedMap.empty.insert PriceList.productColumn 2.0⟩

/-- The row's own factor for this location does not count. -/
theorem productFactor_dropped :
    productFactor.factors.get? PriceList.productColumn = some 2.0 ∧
      (ofRows [productFactor]).price? "SKT" (some PriceList.productColumn) =
        some (Price.of (some 10.0) none) ∧
      (ofRows [productFactor]).price? "SKT" (some PriceList.productColumn) ≠
        some (Price.of (some 10.0) (some 2.0)) := by
  have alone : (ofRows [productFactor]).price? "SKT" (some PriceList.productColumn) =
      some (Price.of (some 10.0) none) :=
    price?_of_last [] [] rfl (fun _ listed => nomatch listed) (by decide)
      fun fixed => absurd fixed (by decide)
  refine ⟨rfl, alone, fun whole => ?_⟩
  have missing : (Price.of (some 10.0) none).missingFactor = true := by decide +kernel
  have present : (Price.of (some 10.0) (some 2.0)).missingFactor = false := by decide +kernel
  rw [Option.some.inj (alone.symm.trans whole), present] at missing
  cases missing

end PriceTable

end WiringQuote
