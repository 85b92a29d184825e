import YusCipher.Model.Utils

/-!
# The linear layer of `linear_layer.cpp`

The constructor parses the 36 row strings of the binary matrix and precomputes the table of
the Four-Russians method: for each of the nine groups of four columns and each four-bit mask,
the exclusive or of the selected columns, each column a 36-bit integer whose bit `row` is the
matrix entry. `apply` forms, for every row and group, the mask of the row's entries in the
group's columns, reads the table at it, and for every set bit `i` of the entry read adds
`state[colStart + i % 4]` to the row sum modulo `p`.
-/

namespace Yus

/-- The row strings of the matrix literal in `LinearLayer::LinearLayer`. -/
def matrixBinary : List String :=
  ["110111111001001111011110110001110111",
  "111110101010110101101111111010011110",
  "010011011110101011111101011111111101",
  "111110111111001001111011110110001110",
  "110111110101010110101101111111010011",
  "101010011011110101011111101011111111",
  "110111110111111001001111011110110001",
  "011110111110101010110101101111111010",
  "111101010011011110101011111101011111",
  "001110111110111111001001111011110110",
  "010011110111110101010110101101111111",
  "111111101010011011110101011111101011",
  "110001110111110111111001001111011110",
  "111010011110111110101010110101101111",
  "011111111101010011011110101011111101",
  "110110001110111110111111001001111011",
  "111111010011110111110101010110101101",
  "101011111111101010011011110101011111",
  "011110110001110111110111111001001111",
  "101111111010011110111110101010110101",
  "111101011111111101010011011110101011",
  "111011110110001110111110111111001001",
  "101101111111010011110111110101010110",
  "011111101011111111101010011011110101",
  "001111011110110001110111110111111001",
  "110101101111111010011110111110101010",
  "101011111101011111111101010011011110",
  "001001111011110110001110111110111111",
  "010110101101111111010011110111110101",
  "110101011111101011111111101010011011",
  "111001001111011110110001110111110111",
  "101010110101101111111010011110111110",
  "011110101011111101011111111101010011",
  "111111001001111011110110001110111110",
  "110101010110101101111111010011110111",
  "011011110101011111101011111111101010"]

/-- `LinearLayer` — the parsed matrix `matrix_` and the table `four_russians_table_`. -/
structure LinearLayer where
  /-- `matrix_`, row-major, entries `0` or `1`. -/
  matrix : List (List Nat)
  /-- `four_russians_table_`, indexed by group and mask. -/
  fourRussiansTable : List (List Nat)
  deriving DecidableEq

namespace LinearLayer

/-- `matrix_[row][col]`. -/
def entry (matrix : List (List Nat)) (row col : Nat) : Nat :=
  (matrix.getD row []).getD col 0

/-- The column vector of `precompute_four_russians`: bit `row` is set iff the entry is one. -/
def columnVector (matrix : List (List Nat)) (col : Nat) : Nat :=
  (List.range 36).foldl
    (fun colVec row => if entry matrix row col = 1 then colVec ||| 1 <<< row else colVec) 0

/-- `LinearLayer::precompute_four_russians` — nine groups of four columns, sixteen masks. -/
def precomputeFourRussians (matrix : List (List Nat)) : List (List Nat) :=
  (List.range 9).map fun group => (List.range 16).map fun mask =>
    (List.range 4).foldl (fun sum bit =>
      if mask &&& 1 <<< bit != 0 then sum ^^^ columnVector matrix (group * 4 + bit) else sum) 0

/-- Row `i` of the constructor's parsing loop: checked for length, then read bit by bit. -/
def parseRow (i : Nat) : Except Exception (List Nat) :=
  let row := matrixBinary.getD i ""
  if row.length ≠ 36 then
    .error (.runtimeError ("Row " ++ toString i ++ " must be 36 bits long"))
  else .ok (row.toList.map fun c => if c = '1' then 1 else 0)

/-- `LinearLayer::LinearLayer` — parses and checks the literal, then fills the table. -/
def new : Except Exception LinearLayer := do
  if matrixBinary.length ≠ 36 then
    throw (.runtimeError "36x36 matrix must have exactly 36 rows")
  let matrix ← (List.range 36).mapM parseRow
  return ⟨matrix, precomputeFourRussians matrix⟩

/-- The mask of `apply`: bit `bit` is set iff the row's entry in column `colStart + bit` is one. -/
def rowMask (matrix : List (List Nat)) (row colStart : Nat) : Nat :=
  (List.range 4).foldl (fun mask bit =>
    if entry matrix row (colStart + bit) = 1 then mask ||| 1 <<< bit else mask) 0

/-- The loop of `apply` over the groups and the bits of the table entries of one row. -/
def rowSum (ll : LinearLayer) (state : List Int) (p : Int) (row : Nat) : Int :=
  (List.range 9).foldl (fun rowSum group =>
    let colStart := group * 4
    let precomputed := (ll.fourRussiansTable.getD group []).getD (rowMask ll.matrix row colStart) 0
    (List.range 36).foldl (fun rowSum i =>
      if precomputed.testBit i then mod (rowSum + state.getD (colStart + i % 4) 0) p
      else rowSum) rowSum) 0

/-- The output of `apply` on a state of the right length. -/
def rows (ll : LinearLayer) (state : List Int) (p : Int) : List Int :=
  (List.range 36).map (ll.rowSum state p)

/-- `LinearLayer::apply` — checks the length of the state, then sums each row. -/
def apply (ll : LinearLayer) (state : List Int) (p : Int) : Except Exception (List Int) :=
  if state.length ≠ 36 then .error (.invalidArgument "Linear layer input must be 36 elements")
  else .ok (ll.rows state p)

/-- `LinearLayer::linear_branch_number`. -/
def linearBranchNumber (_ll : LinearLayer) : UInt32 := 6

/-- `LinearLayer::differential_branch_number`. -/
def differentialBranchNumber (_ll : LinearLayer) : UInt32 := 10

end LinearLayer

end Yus
