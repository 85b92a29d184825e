import YusCipher.Verif.LinearLayer
import YusCipher.Verif.Circulant

/-!
# The constructed linear layer and a left inverse of its coefficients

`LinearLayer::LinearLayer` builds one value, `yusLayer`: the parsed literal and its table. The
coefficient matrix of `apply` on it is written out by columns, with an integer matrix whose
product with it is `inverseFactor` times the identity. Closed computations, each checked by
evaluation, tie these literals to the model: the constructor returns `yusLayer`, the columns
are the bit counts of its table entries, both matrices repeat along the diagonals of step 12,
and the first twelve rows of the product are those of the scaled identity.
-/

open Yus Yus.LinearLayer YusVerif.LinearLayer

namespace YusVerif.LayerData

/-- The layer `LinearLayer::LinearLayer` builds: the parsed literal and its table. -/
def yusLayer : LinearLayer where
  matrix :=
    [([1, 1, 0, 1, 1, 1, 1, 1, 1, 0, 0, 1, 0, 0, 1, 1, 1, 1, 0, 1, 1, 1, 1, 0, 1, 1, 0, 0, 0, 1, 1, 1, 0, 1, 1, 1] : List Nat),
    ([1, 1, 1, 1, 1, 0, 1, 0, 1, 0, 1, 0, 1, 1, 0, 1, 0, 1, 1, 0, 1, 1, 1, 1, 1, 1, 1, 0, 1, 0, 0, 1, 1, 1, 1, 0] : List Nat),
    ([0, 1, 0, 0, 1, 1, 0, 1, 1, 1, 1, 0, 1, 0, 1, 0, 1, 1, 1, 1, 1, 1, 0, 1, 0, 1, 1, 1, 1, 1, 1, 1, 1, 1, 0, 1] : List Nat),
    ([1, 1, 1, 1, 1, 0, 1, 1, 1, 1, 1, 1, 0, 0, 1, 0, 0, 1, 1, 1, 1, 0, 1, 1, 1, 1, 0, 1, 1, 0, 0, 0, 1, 1, 1, 0] : List Nat),
    ([1, 1, 0, 1, 1, 1, 1, 1, 0, 1, 0, 1, 0, 1, 0, 1, 1, 0, 1, 0, 1, 1, 0, 1, 1, 1, 1, 1, 1, 1, 0, 1, 0, 0, 1, 1] : List Nat),
    ([1, 0, 1, 0, 1, 0, 0, 1, 1, 0, 1, 1, 1, 1, 0, 1, 0, 1, 0, 1, 1, 1, 1, 1, 1, 0, 1, 0, 1, 1, 1, 1, 1, 1, 1, 1] : List Nat),
    ([1, 1, 0, 1, 1, 1, 1, 1, 0, 1, 1, 1, 1, 1, 1, 0, 0, 1, 0, 0, 1, 1, 1, 1, 0, 1, 1, 1, 1, 0, 1, 1, 0, 0, 0, 1] : List Nat),
    ([0, 1, 1, 1, 1, 0, 1, 1, 1, 1, 1, 0, 1, 0, 1, 0, 1, 0, 1, 1, 0, 1, 0, 1, 1, 0, 1, 1, 1, 1, 1, 1, 1, 0, 1, 0] : List Nat),
    ([1, 1, 1, 1, 0, 1, 0, 1, 0, 0, 1, 1, 0, 1, 1, 1, 1, 0, 1, 0, 1, 0, 1, 1, 1, 1, 1, 1, 0, 1, 0, 1, 1, 1, 1, 1] : List Nat),
    ([0, 0, 1, 1, 1, 0, 1, 1, 1, 1, 1, 0, 1, 1, 1, 1, 1, 1, 0, 0, 1, 0, 0, 1, 1, 1, 1, 0, 1, 1, 1, 1, 0, 1, 1, 0] : List Nat),
    ([0, 1, 0, 0, 1, 1, 1, 1, 0, 1, 1, 1, 1, 1, 0, 1, 0, 1, 0, 1, 0, 1, 1, 0, 1, 0, 1, 1, 0, 1, 1, 1, 1, 1, 1, 1] : List Nat),
    ([1, 1, 1, 1, 1, 1, 1, 0, 1, 0, 1, 0, 0, 1, 1, 0, 1, 1, 1, 1, 0, 1, 0, 1, 0, 1, 1, 1, 1, 1, 1, 0, 1, 0, 1, 1] : List Nat),
    ([1, 1, 0, 0, 0, 1, 1, 1, 0, 1, 1, 1, 1, 1, 0, 1, 1, 1, 1, 1, 1, 0, 0, 1, 0, 0, 1, 1, 1, 1, 0, 1, 1, 1, 1, 0] : List Nat),
    ([1, 1, 1, 0, 1, 0, 0, 1, 1, 1, 1, 0, 1, 1, 1, 1, 1, 0, 1, 0, 1, 0, 1, 0, 1, 1, 0, 1, 0, 1, 1, 0, 1, 1, 1, 1] : List Nat),
    ([0, 1, 1, 1, 1, 1, 1, 1, 1, 1, 0, 1, 0, 1, 0, 0, 1, 1, 0, 1, 1, 1, 1, 0, 1, 0, 1, 0, 1, 1, 1, 1, 1, 1, 0, 1] : List Nat),
    ([1, 1, 0, 1, 1, 0, 0, 0, 1, 1, 1, 0, 1, 1, 1, 1, 1, 0, 1, 1, 1, 1, 1, 1, 0, 0, 1, 0, 0, 1, 1, 1, 1, 0, 1, 1] : List Nat),
    ([1, 1, 1, 1, 1, 1, 0, 1, 0, 0, 1, 1, 1, 1, 0, 1, 1, 1, 1, 1, 0, 1, 0, 1, 0, 1, 0, 1, 1, 0, 1, 0, 1, 1, 0, 1] : List Nat),
    ([1, 0, 1, 0, 1, 1, 1, 1, 1, 1, 1, 1, 1, 0, 1, 0, 1, 0, 0, 1, 1, 0, 1, 1, 1, 1, 0, 1, 0, 1, 0, 1, 1, 1, 1, 1] : List Nat),
    ([0, 1, 1, 1, 1, 0, 1, 1, 0, 0, 0, 1, 1, 1, 0, 1, 1, 1, 1, 1, 0, 1, 1, 1, 1, 1, 1, 0, 0, 1, 0, 0, 1, 1, 1, 1] : List Nat),
    ([1, 0, 1, 1, 1, 1, 1, 1, 1, 0, 1, 0, 0, 1, 1, 1, 1, 0, 1, 1, 1, 1, 1, 0, 1, 0, 1, 0, 1, 0, 1, 1, 0, 1, 0, 1] : List Nat),
    ([1, 1, 1, 1, 0, 1, 0, 1, 1, 1, 1, 1, 1, 1, 1, 1, 0, 1, 0, 1, 0, 0, 1, 1, 0, 1, 1, 1, 1, 0, 1, 0, 1, 0, 1, 1] : List Nat),
    ([1, 1, 1, 0, 1, 1, 1, 1, 0, 1, 1, 0, 0, 0, 1, 1, 1, 0, 1, 1, 1, 1, 1, 0, 1, 1, 1, 1, 1, 1, 0, 0, 1, 0, 0, 1] : List Nat),
    ([1, 0, 1, 1, 0, 1, 1, 1, 1, 1, 1, 1, 0, 1, 0, 0, 1, 1, 1, 1, 0, 1, 1, 1, 1, 1, 0, 1, 0, 1, 0, 1, 0, 1, 1, 0] : List Nat),
    ([0, 1, 1, 1, 1, 1, 1, 0, 1, 0, 1, 1, 1, 1, 1, 1, 1, 1, 1, 0, 1, 0, 1, 0, 0, 1, 1, 0, 1, 1, 1, 1, 0, 1, 0, 1] : List Nat),
    ([0, 0, 1, 1, 1, 1, 0, 1, 1, 1, 1, 0, 1, 1, 0, 0, 0, 1, 1, 1, 0, 1, 1, 1, 1, 1, 0, 1, 1, 1, 1, 1, 1, 0, 0, 1] : List Nat),
    ([1, 1, 0, 1, 0, 1, 1, 0, 1, 1, 1, 1, 1, 1, 1, 0, 1, 0, 0, 1, 1, 1, 1, 0, 1, 1, 1, 1, 1, 0, 1, 0, 1, 0, 1, 0] : List Nat),
    ([1, 0, 1, 0, 1, 1, 1, 1, 1, 1, 0, 1, 0, 1, 1, 1, 1, 1, 1, 1, 1, 1, 0, 1, 0, 1, 0, 0, 1, 1, 0, 1, 1, 1, 1, 0] : List Nat),
    ([0, 0, 1, 0, 0, 1, 1, 1, 1, 0, 1, 1, 1, 1, 0, 1, 1, 0, 0, 0, 1, 1, 1, 0, 1, 1, 1, 1, 1, 0, 1, 1, 1, 1, 1, 1] : List Nat),
    ([0, 1, 0, 1, 1, 0, 1, 0, 1, 1, 0, 1, 1, 1, 1, 1, 1, 1, 0, 1, 0, 0, 1, 1, 1, 1, 0, 1, 1, 1, 1, 1, 0, 1, 0, 1] : List Nat),
    ([1, 1, 0, 1, 0, 1, 0, 1, 1, 1, 1, 1, 1, 0, 1, 0, 1, 1, 1, 1, 1, 1, 1, 1, 1, 0, 1, 0, 1, 0, 0, 1, 1, 0, 1, 1] : List Nat),
    ([1, 1, 1, 0, 0, 1, 0, 0, 1, 1, 1, 1, 0, 1, 1, 1, 1, 0, 1, 1, 0, 0, 0, 1, 1, 1, 0, 1, 1, 1, 1, 1, 0, 1, 1, 1] : List Nat),
    ([1, 0, 1, 0, 1, 0, 1, 1, 0, 1, 0, 1, 1, 0, 1, 1, 1, 1, 1, 1, 1, 0, 1, 0, 0, 1, 1, 1, 1, 0, 1, 1, 1, 1, 1, 0] : List Nat),
    ([0, 1, 1, 1, 1, 0, 1, 0, 1, 0, 1, 1, 1, 1, 1, 1, 0, 1, 0, 1, 1, 1, 1, 1, 1, 1, 1, 1, 0, 1, 0, 1, 0, 0, 1, 1] : List Nat),
    ([1, 1, 1, 1, 1, 1, 0, 0, 1, 0, 0, 1, 1, 1, 1, 0, 1, 1, 1, 1, 0, 1, 1, 0, 0, 0, 1, 1, 1, 0, 1, 1, 1, 1, 1, 0] : List Nat),
    ([1, 1, 0, 1, 0, 1, 0, 1, 0, 1, 1, 0, 1, 0, 1, 1, 0, 1, 1, 1, 1, 1, 1, 1, 0, 1, 0, 0, 1, 1, 1, 1, 0, 1, 1, 1] : List Nat),
    ([0, 1, 1, 0, 1, 1, 1, 1, 0, 1, 0, 1, 0, 1, 1, 1, 1, 1, 1, 0, 1, 0, 1, 1, 1, 1, 1, 1, 1, 1, 1, 0, 1, 0, 1, 0] : List Nat)]
  fourRussiansTable :=
    [([0, 29636671867, 66349039071, 41151251620, 50700708778, 56564699857, 20389205621, 10086330126, 30934944731, 7879422624, 35457086980, 62932619135, 55803289713, 43358165258, 15243632046, 23268746453] : List Nat),
    ([0, 49755975423, 62008286549, 25674691498, 41321127643, 8778788900, 34109457294, 53229579633, 54450419709, 31017965826, 11853376168, 40117191767, 22339987750, 62918674393, 48795120755, 3385170572] : List Nat),
    ([0, 15029955247, 55691114204, 66717228147, 23286497262, 26107532609, 41280948530, 46763582365, 51520165241, 36524900310, 30226621349, 19167922442, 62632290967, 59776565304, 10240269387, 4790220516] : List Nat),
    ([0, 33212053222, 48853024626, 55369681300, 68563938253, 35654540587, 20021990591, 13202678361, 59537995571, 44680479189, 27973929025, 5250743975, 9295043838, 23917013528, 40631985036, 63590716778] : List Nat),
    ([0, 47226813333, 67475168879, 22736971258, 63987104158, 17633001995, 5640873969, 50177973348, 34217122989, 55995017016, 35478209218, 11748604247, 38966289715, 16852557478, 28576267100, 53043839177] : List Nat),
    ([0, 58765013887, 30860496119, 45126991752, 67578553707, 8947766804, 36852410780, 22451706595, 57803250686, 3690817665, 44463445769, 34167891062, 12057149077, 66035355114, 25262600802, 35692364061] : List Nat),
    ([0, 40725538747, 59592092511, 19941379300, 50109145078, 12110182477, 27737715881, 64661852946, 50926403036, 11276212839, 25845569155, 66570580280, 1909449258, 38833063313, 58757532021, 20759097038] : List Nat),
    ([0, 64419879678, 57275776949, 15743296843, 63813840613, 606123035, 15275594064, 57743395758, 34322700279, 38695832841, 45771139138, 18649281212, 39297693970, 33720787948, 19121161895, 45299309657] : List Nat),
    ([0, 45889355182, 29474387759, 53485275777, 68423172027, 22571729429, 39503644820, 15530341690, 23517457781, 68023750875, 15660522074, 38827157492, 45498323662, 954117984, 52800398817, 29596178511] : List Nat)]

/-- The constructor always succeeds, with `yusLayer`. -/
theorem new_eq_yusLayer : LinearLayer.new = .ok yusLayer := by
  have h : LinearLayer.new.toOption = some yusLayer := by decide
  revert h
  cases LinearLayer.new <;> simp [Except.toOption]

/-- The constructor's layer on the counter vector `(1, …, 36)` of block 0, modulo 65537. -/
theorem apply_eq_coefficients_65537 : (0 : Int) < 65537 ∧
    ((List.range 36).map fun i : Nat => (i + 1 : Int)).length = 36 ∧
    yusLayer.apply ((List.range 36).map fun i : Nat => (i + 1 : Int)) 65537 =
      .ok ((List.range 36).map fun row => (∑ col ∈ Finset.range 36,
        (coefficient yusLayer row col : Int) *
          ((List.range 36).map fun i : Nat => (i + 1 : Int)).getD col 0) % 65537) := by
  have hlen : ((List.range 36).map fun i : Nat => (i + 1 : Int)).length = 36 := by
    rw [List.length_map, List.length_range]
  exact ⟨by decide, hlen, apply_eq_coefficients (by decide) yusLayer hlen⟩

/-- The columns of the coefficient matrix of `yusLayer`. -/
def coefficientColumns : List (List Int) :=
  [([6, 3, 8, 3, 6, 5, 6, 5, 3, 3, 8, 3, 2, 5, 5, 6, 3, 5, 5, 5, 3, 5, 5, 5, 3, 6, 5, 5, 2, 6, 5, 5, 5, 3, 6, 5] : List Int),
    ([7, 4, 6, 4, 7, 3, 7, 4, 4, 6, 6, 4, 2, 5, 4, 7, 4, 3, 4, 2, 4, 5, 2, 4, 6, 7, 3, 7, 3, 7, 5, 3, 4, 4, 7, 5] : List Int),
    ([5, 8, 7, 8, 5, 4, 5, 5, 8, 4, 7, 8, 6, 3, 5, 5, 8, 4, 5, 1, 8, 3, 1, 5, 4, 5, 4, 5, 4, 5, 3, 4, 5, 8, 5, 6] : List Int),
    ([5, 5, 6, 5, 5, 5, 5, 6, 5, 4, 6, 5, 5, 3, 6, 5, 5, 5, 6, 5, 5, 3, 5, 6, 4, 5, 5, 8, 2, 5, 3, 5, 6, 5, 5, 4] : List Int),
    ([3, 3, 6, 4, 3, 5, 3, 4, 0, 4, 3, 4, 5, 5, 3, 6, 6, 3, 4, 3, 0, 3, 5, 4, 6, 6, 3, 5, 3, 0, 7, 4, 3, 5, 0, 3] : List Int),
    ([1, 4, 4, 6, 1, 3, 1, 6, 5, 6, 1, 5, 6, 3, 1, 7, 4, 1, 6, 1, 5, 1, 6, 5, 4, 4, 1, 6, 4, 5, 5, 6, 4, 6, 5, 1] : List Int),
    ([4, 2, 6, 6, 4, 2, 4, 6, 2, 6, 4, 6, 6, 2, 4, 6, 6, 4, 6, 4, 2, 4, 6, 6, 6, 4, 4, 6, 2, 2, 8, 6, 2, 4, 2, 4] : List Int),
    ([7, 2, 3, 6, 7, 4, 7, 6, 5, 6, 7, 5, 3, 4, 7, 8, 3, 7, 6, 7, 5, 7, 3, 5, 3, 3, 7, 3, 2, 5, 5, 6, 2, 5, 5, 7] : List Int),
    ([5, 5, 6, 4, 5, 3, 3, 6, 4, 6, 3, 5, 3, 6, 4, 6, 4, 4, 8, 5, 4, 5, 4, 3, 6, 4, 4, 3, 4, 4, 4, 5, 3, 5, 5, 5] : List Int),
    ([3, 2, 6, 3, 5, 5, 5, 6, 5, 6, 5, 2, 5, 6, 5, 6, 5, 3, 5, 2, 3, 2, 3, 5, 6, 3, 5, 5, 5, 3, 3, 5, 5, 3, 2, 5] : List Int),
    ([4, 5, 3, 6, 3, 4, 5, 3, 5, 3, 5, 5, 5, 3, 6, 3, 5, 6, 7, 5, 6, 2, 6, 4, 3, 6, 6, 4, 6, 6, 6, 3, 4, 4, 2, 3] : List Int),
    ([6, 0, 5, 4, 4, 5, 3, 5, 6, 5, 3, 0, 3, 5, 3, 5, 6, 4, 5, 0, 4, 6, 4, 5, 5, 4, 3, 5, 3, 4, 4, 4, 5, 6, 6, 4] : List Int),
    ([3, 6, 5, 5, 2, 6, 5, 5, 5, 3, 6, 5, 6, 3, 8, 3, 6, 5, 6, 5, 3, 3, 8, 3, 2, 5, 5, 6, 3, 5, 5, 5, 3, 5, 5, 5] : List Int),
    ([6, 7, 3, 7, 3, 7, 5, 3, 4, 4, 7, 5, 7, 4, 6, 4, 7, 3, 7, 4, 4, 6, 6, 4, 2, 5, 4, 7, 4, 3, 4, 2, 4, 5, 2, 4] : List Int),
    ([4, 5, 4, 5, 4, 5, 3, 4, 5, 8, 5, 6, 5, 8, 7, 8, 5, 4, 5, 5, 8, 4, 7, 8, 6, 3, 5, 5, 8, 4, 5, 1, 8, 3, 1, 5] : List Int),
    ([4, 5, 5, 8, 2, 5, 3, 5, 6, 5, 5, 4, 5, 5, 6, 5, 5, 5, 5, 6, 5, 4, 6, 5, 5, 3, 6, 5, 5, 5, 6, 5, 5, 3, 5, 6] : List Int),
    ([6, 6, 3, 5, 3, 0, 7, 4, 3, 5, 0, 3, 3, 3, 6, 4, 3, 5, 3, 4, 0, 4, 3, 4, 5, 5, 3, 6, 6, 3, 4, 3, 0, 3, 5, 4] : List Int),
    ([4, 4, 1, 6, 4, 5, 5, 6, 4, 6, 5, 1, 1, 4, 4, 6, 1, 3, 1, 6, 5, 6, 1, 5, 6, 3, 1, 7, 4, 1, 6, 1, 5, 1, 6, 5] : List Int),
    ([6, 4, 4, 6, 2, 2, 8, 6, 2, 4, 2, 4, 4, 2, 6, 6, 4, 2, 4, 6, 2, 6, 4, 6, 6, 2, 4, 6, 6, 4, 6, 4, 2, 4, 6, 6] : List Int),
    ([3, 3, 7, 3, 2, 5, 5, 6, 2, 5, 5, 7, 7, 2, 3, 6, 7, 4, 7, 6, 5, 6, 7, 5, 3, 4, 7, 8, 3, 7, 6, 7, 5, 7, 3, 5] : List Int),
    ([6, 4, 4, 3, 4, 4, 4, 5, 3, 5, 5, 5, 5, 5, 6, 4, 5, 3, 3, 6, 4, 6, 3, 5, 3, 6, 4, 6, 4, 4, 8, 5, 4, 5, 4, 3] : List Int),
    ([6, 3, 5, 5, 5, 3, 3, 5, 5, 3, 2, 5, 3, 2, 6, 3, 5, 5, 5, 6, 5, 6, 5, 2, 5, 6, 5, 6, 5, 3, 5, 2, 3, 2, 3, 5] : List Int),
    ([3, 6, 6, 4, 6, 6, 6, 3, 4, 4, 2, 3, 4, 5, 3, 6, 3, 4, 5, 3, 5, 3, 5, 5, 5, 3, 6, 3, 5, 6, 7, 5, 6, 2, 6, 4] : List Int),
    ([5, 4, 3, 5, 3, 4, 4, 4, 5, 6, 6, 4, 6, 0, 5, 4, 4, 5, 3, 5, 6, 5, 3, 0, 3, 5, 3, 5, 6, 4, 5, 0, 4, 6, 4, 5] : List Int),
    ([2, 5, 5, 6, 3, 5, 5, 5, 3, 5, 5, 5, 3, 6, 5, 5, 2, 6, 5, 5, 5, 3, 6, 5, 6, 3, 8, 3, 6, 5, 6, 5, 3, 3, 8, 3] : List Int),
    ([2, 5, 4, 7, 4, 3, 4, 2, 4, 5, 2, 4, 6, 7, 3, 7, 3, 7, 5, 3, 4, 4, 7, 5, 7, 4, 6, 4, 7, 3, 7, 4, 4, 6, 6, 4] : List Int),
    ([6, 3, 5, 5, 8, 4, 5, 1, 8, 3, 1, 5, 4, 5, 4, 5, 4, 5, 3, 4, 5, 8, 5, 6, 5, 8, 7, 8, 5, 4, 5, 5, 8, 4, 7, 8] : List Int),
    ([5, 3, 6, 5, 5, 5, 6, 5, 5, 3, 5, 6, 4, 5, 5, 8, 2, 5, 3, 5, 6, 5, 5, 4, 5, 5, 6, 5, 5, 5, 5, 6, 5, 4, 6, 5] : List Int),
    ([5, 5, 3, 6, 6, 3, 4, 3, 0, 3, 5, 4, 6, 6, 3, 5, 3, 0, 7, 4, 3, 5, 0, 3, 3, 3, 6, 4, 3, 5, 3, 4, 0, 4, 3, 4] : List Int),
    ([6, 3, 1, 7, 4, 1, 6, 1, 5, 1, 6, 5, 4, 4, 1, 6, 4, 5, 5, 6, 4, 6, 5, 1, 1, 4, 4, 6, 1, 3, 1, 6, 5, 6, 1, 5] : List Int),
    ([6, 2, 4, 6, 6, 4, 6, 4, 2, 4, 6, 6, 6, 4, 4, 6, 2, 2, 8, 6, 2, 4, 2, 4, 4, 2, 6, 6, 4, 2, 4, 6, 2, 6, 4, 6] : List Int),
    ([3, 4, 7, 8, 3, 7, 6, 7, 5, 7, 3, 5, 3, 3, 7, 3, 2, 5, 5, 6, 2, 5, 5, 7, 7, 2, 3, 6, 7, 4, 7, 6, 5, 6, 7, 5] : List Int),
    ([3, 6, 4, 6, 4, 4, 8, 5, 4, 5, 4, 3, 6, 4, 4, 3, 4, 4, 4, 5, 3, 5, 5, 5, 5, 5, 6, 4, 5, 3, 3, 6, 4, 6, 3, 5] : List Int),
    ([5, 6, 5, 6, 5, 3, 5, 2, 3, 2, 3, 5, 6, 3, 5, 5, 5, 3, 3, 5, 5, 3, 2, 5, 3, 2, 6, 3, 5, 5, 5, 6, 5, 6, 5, 2] : List Int),
    ([5, 3, 6, 3, 5, 6, 7, 5, 6, 2, 6, 4, 3, 6, 6, 4, 6, 6, 6, 3, 4, 4, 2, 3, 4, 5, 3, 6, 3, 4, 5, 3, 5, 3, 5, 5] : List Int),
    ([3, 5, 3, 5, 6, 4, 5, 0, 4, 6, 4, 5, 5, 4, 3, 5, 3, 4, 4, 4, 5, 6, 6, 4, 6, 0, 5, 4, 4, 5, 3, 5, 6, 5, 3, 0] : List Int)]

/-- The set bits `4k + b`, `k < 9`, of a table entry: the coefficient of a column `4g + b`. -/
def bitCount (e b : Nat) : Nat :=
  ((List.range 9).filter fun k => e.testBit (4 * k + b)).length

/-- The four literal columns of a group agree with the bit counts of a table entry. -/
def groupCheck (e row g : Nat) : Bool :=
  (List.range 4).all fun b => (coefficientColumns.getD (4 * g + b) []).getD row 0 == bitCount e b

/-- The literal columns agree with the bit counts of the table entries of `yusLayer`. -/
theorem groupCheck_all : ((List.range 36).all fun row => (List.range 9).all fun g =>
    groupCheck (tableEntry yusLayer row g) row g) = true := by
  decide

/-- The factor of the left inverse. -/
def inverseFactor : Nat := 10690271224358362882567686

/-- An integer matrix whose product with the coefficient matrix is `inverseFactor` times
the identity. -/
def inverseRows : List (List Int) :=
  [([506087103525983268386494, -412603586279338093656586, -1325051737636551408989016, -1617691636413515379707970, 3610639993078866238984184, 2041496890952098343150930, -2124206886628737113336056, 756700965102229155484946, 1017953437888810388134546, -1980169128238842671553674, 2416374875252806838013106, 1146584033047413716025806, 1184714631048630281964076, -566003806012641274257208, -5136851624673967523013084, -294683626092860029369428, 3192444136718775813622814, 1767460791775402203526916, -2223482288629935912049870, 3370695751691376685545350, -2779693802893023153797426, -994440905923525979819456, 1690531050288146844703426, 3629364220533564847946054, 167485191467620935773392, -491241051865837334042092, -3558438929567179020669126, -1400144031022753019586156, 3837325846475003572111574, 2357411924215189308895562, -2096470098015922638092398, -481559674847776278597058, -3465978695001107435099924, -1221713946196974364156034, 1285454124548006602736038, 723330700630911904154828] : List Int),
    ([-2748658945872754536926570, 202035588589605452165330, 8423896063852898211931824, 3230111969948856345905118, -6859461289925530569744874, -5174876908510752313546354, 5684303502730242922504322, -4113049545223082927731240, 3033195168570519650407528, 4486040563905050928190630, -3335046081842468648781560, -4615461276269615703785266, -3350216206642040451461774, 1688049646918170116549948, 8063227074448524858149550, 2205936589579914761437602, -6242318697204659692903084, -6213787482452013684634246, 4281097804617733712415950, -1978792147721667487532890, 4882701923668630488113596, 2028232382963061895801132, -2502588117767420555867624, -4895611203465355755211816, -2571818242252082563461974, 1540694770701007334827862, 7359980212621790703582150, 2944805384604729556035552, -7652232154255753901514370, -5113439746307243048333398, 4517767851606748619844740, -2698642895016403391454496, 2822895555272228334122224, 3485273023893816187836454, -2537222231168151167941874, -4010327433148916730841228] : List Int),
    ([1198686440620804086925734, 799542136716343553530428, -2571403529749177076636376, -1550845410222063866780394, 2758836222816779372221464, 1803841073309484189413430, -2134518278762150921383212, 1657332606091430096628360, 453687625602824392496730, -2003443376240602759373070, 1792916089776110858935566, 1901306935084879910552136, 90076513866078936304002, -553627051797751713421050, -3856994617769363208290184, -901255988036493916586298, 2171065400216963105886096, 1654598402220203660333346, -2259034646251428071104386, 551036050963210822795440, -1892748034658167120503654, -1111354594145820123854856, 1145162195308569896651694, 2219509016785764807260964, 1125356543428620803688552, -1295992746478487445040218, -1894020221531200709574630, -523221657896239219038240, 2703741902414506797014778, 1965910700243070835403010, -893008158297465195950916, 212599733300755846884078, -2303156714387273614786254, -153633538039129552762188, 200233924645570780916352, 1617937822349081760058008] : List Int),
    ([904826819827497735363644, 1286669368083915626999242, -588885292234391274651378, 583552256613690550940502, -1241497286053128929039498, -1681230544957071601561448, -61521324496156656890318, 3080123559599266525291936, 396377364768567160778384, -549524775866801568912628, -903628802983970269024018, 400419261018251979194122, 280728170628932731060640, 56537645668883065255834, 1801405949857074445045506, 225249409295865991721328, -3139756349613793170420080, -299790643722347101726676, 829146476714571734006344, -2339062271199060621934442, -2041586943340246367157118, 399622853826109358837096, -732966240032652302566402, -1378849936790369451240806, 521681312011389098454608, -361532029840638796299206, 3756312352631044555371618, 492609839537199026232744, -3054654710758082510155328, 107531442655391870801248, 1315449552240233658351334, -2354565867422873217038738, 4276914538880049878077526, 1330902287588577660914348, -987591396071636247426004, -1299863127567784113235178] : List Int),
    ([1747569011552891199257506, -524133395392091173882210, -4753989996321169173112026, -1481820772035887062263708, 4101319886975563071496970, 4315630079833274249759198, -2881867853780617407768580, 2119400232970766155195262, -536096633049470886908138, -2298420403227748770164186, 1356466763634783250335376, 3194298491649432330701948, 1075170894247322396096278, -499618645956788892985708, -5675386315193311469645400, -565733587416788657491548, 4545133803294643914005948, 2637927143670392400981884, -3564909023983321939970248, 2840893328117947964528384, -4230600444379555975171118, -2524771145919998622317534, 1572182538060370922919622, 2782713231254277428030324, 2238959110330392094291384, -414564097205339479136920, -3332485531941620560910322, -1933351175204643624554796, 3346955343652726172461778, 3747808533777822955881224, -2486080714186118751196138, -293847180065438529598990, -2423281960443786140678954, -825002864966657646540416, 1158987127184709892270504, 1810558855486473475610144] : List Int),
    ([-374724077508820716494438, -951333455221199940102994, -162007674297694195533450, -64003177387373370450360, 1529300685839387007392084, 1142996187228722151367934, 51326864804844604990112, 904346143967913717841952, 2711355920404404899245516, -263275512352926954904346, -68176973169783850911764, 1084341980218598792258144, 839618535040625580763342, 483499147413310951427678, -3020277029804841357462012, 617642311233104637809826, 1710340954320706017160064, -549020097864513812839360, -1142201055400273189545616, 2935101448556875485919412, -2110128158632156210671266, -941356306375794293182622, 687434248088755257204208, 1499207157175529362840298, -772017960618360414799676, 70035873352703479065452, -725141096209143104781120, -781883282422567789757916, 744257091543479803946204, 1164718256420831615203868, -772907556976502899879816, -2109628326016544446076434, -2003257132326588586913582, -199904103813831828605084, 849889231075036556464282, -1249220130131235940529902] : List Int),
    ([218276548001172471791491, -691826791095782531468965, -1407493539152071682900694, 520336632807315725986389, 401208338167162105776077, -530141424039326424222142, -591685845187001592814717, -659426869865944849932130, -4635643453361324792829350, 542600606104343489279038, 574095352500192357777019, 413107469848921457798888, 1383782637424518075256015, -989964068738069984033734, 1418230235145286362472365, -1314216299715777509887689, 695914605460054820964236, 1969224073935996461119151, 627092617538257711693937, -2287934099459792080950457, 2083755277875398587608967, 451330911784785801146896, 108952679845629051713155, -247612441159767033326683, 572315222853969572963881, 723963401730602981679767, -3025791135835108371130533, -741473286537940717453098, 933511700966029337758067, -503124706796879787363478, -981223696596221716052023, 3703212301077864353054675, 1458302580192555389465446, -2571584031655911583961447, 1082059359139954437195184, 1956578708289313425970478] : List Int),
    ([-1136117462294202702396322, 17766808804979878665634, 1745519284365920146572432, 814065076420467578896938, -1046784519963136848262496, -740614479007604008001288, 1445070557258617893291856, 263340676241135797354156, 3165701934087552721104074, 920862578592075124148984, -1211788598275389452020786, -496622812268916309987566, -961475184549033041632942, 402279216807938088694756, 1101522449933588002051518, 1755002940870806412887472, -1279376977465555188438698, -1656932253206310369200042, 586391151995595646985068, 565175635745722052889310, -1018884731271034406450620, 718595495437431143112662, -831246963762075749350234, -470376318909601771298462, -1466722646117100417943006, 57921203160823210925788, 3223893656214026606058792, -6784100006245893365790, -2506011059472077451014660, -670476644782539313495916, 1446450805139881374093946, -2789883942792214775253962, 153023363964429547874948, 1500646211831536783015172, -974677448556812160732262, -2042196610332771855337262] : List Int),
    ([-837173865667224466527944, 1054221896574167685472010, 779232794532217222744974, -184876077788375162334810, -2830056601288292951900836, -1779473656941091607449534, 53969034315959932710590, -1822144185212130918605656, -1937231803140847917536378, 932895645283256511675196, -280795680031093664114888, -1345908877269029514458164, -791456938192202043494726, -1048451680299550676055970, 3979892385784576773118992, 803040278259738808771230, -1762492551732834776185744, -443346952488084845151994, 3221137153753729910345450, -2024294980889796987527764, 2190940065297784825112452, 1920460065926540272803340, -1634368907591258085936668, -1779186124707326973886570, 776951425321960310231236, 1537869887465066720840618, 246588371512192653782664, -356162191583473962400434, -1039074549752992631080552, -2140818127475517543020254, 233829563331360545786930, 2640805112635592059363640, 2748086755716976290821386, -291621694823137459985162, 9810456708955408954546, 255646391611835934026240] : List Int),
    ([-2213151622846170596515022, 1611682849899303647299706, 1379376528375406809929286, 1013941434533542739801598, -2351008363789736657346532, -3856127738412070961175352, 668828269586131694148914, 1182689781186665227363604, 1183624876342711063901770, 549669081973822984995454, 148279096302595631410474, -1844971998736722529078792, -2435585430801393643470596, -814846284699734857546894, 4893485837120019763434246, 2152060137436334895777378, -3139304688337630703070556, -2369390889080101163284918, 2770080738036546623994452, -4238898777921408659663236, -1078425240253955581087490, 2720767245899969468083768, -1984613408596653571052192, -3459641360446085024343652, -1305089007522344540880662, 151216592068883693724326, 5326466458766685704981832, 1545069605837609807201946, -1121728978999582555845130, -2219691125277959434174420, 2707278822538150319767994, 23275842803357094520394, 4755171266821112624086132, 1079903585526033208626076, -1941846861505019077758164, -2160397342280289418517488] : List Int),
    ([162023674221383243566396, 80669338448854296160766, -2396633127013617750606246, -1097436500410796339123904, 113715261703067075945240, 970218377382403934217788, -1385943204610733368475008, -1319864485651111451307484, -1749797578181384551630226, -1248758970789899924752058, 1368395114118938019805078, -268269751421971243868044, -194871951266574058256006, -1760178787427168404995658, 73761112166033796647502, -287466135416870089824942, 702690860405043909166238, 1479779664393014983170962, 888344846424584655670550, -368592203754120049828252, 844376126403887493988000, -207676374196426628441888, -412437285479923538998844, 1319833308496879393209866, 2160614740549364311706440, 1188377530903384442683730, -2292138980746485948663774, -519075975037124844423168, 2138301530678004523060412, 1043732367304100961549464, -760015751915590537486882, 2936645765637286547117174, -532149838001915847148448, -830833868205434568072452, -132184907749259906469818, 1372697454871894463705732] : List Int),
    ([2467436416970837138271908, -1061383488475131680357480, -3622932100787337813854550, -1241566569571184607749754, 3017344742692241973759640, 3142770891081350982747922, -2279498260543959792443330, 282949253643829079422888, -3489528247561011236898460, -1185924001690089233746108, 1053171063600960664915670, 912251038481950274063836, 1200497925376518281031656, -328782458282966861087510, -3279782174360264796001602, -2199370510265613556405422, 3458653113103172668363696, 3143268483410523424494418, -2256481679728736816925674, 510162103265973336493096, 826698428696753364423464, -1931638391771868269018104, 1914649513978885037242754, 2170346972904055095206566, 1617849545802753355849976, -656398383357818874718460, -4835440896747963046446180, -854846777340898789405224, 3410862229472848324990726, 2121705807129541441262128, -2665803074035368103661132, 2880829230540345692437276, -2581855059425124327544258, -1290813412097200832749126, 1550469524632473772640060, 3002958611703435392378164] : List Int),
    ([167485191467620935773392, -491241051865837334042092, -3558438929567179020669126, -1400144031022753019586156, 3837325846475003572111574, 2357411924215189308895562, -2096470098015922638092398, -481559674847776278597058, -3465978695001107435099924, -1221713946196974364156034, 1285454124548006602736038, 723330700630911904154828, 506087103525983268386494, -412603586279338093656586, -1325051737636551408989016, -1617691636413515379707970, 3610639993078866238984184, 2041496890952098343150930, -2124206886628737113336056, 756700965102229155484946, 1017953437888810388134546, -1980169128238842671553674, 2416374875252806838013106, 1146584033047413716025806, 1184714631048630281964076, -566003806012641274257208, -5136851624673967523013084, -294683626092860029369428, 3192444136718775813622814, 1767460791775402203526916, -2223482288629935912049870, 3370695751691376685545350, -2779693802893023153797426, -994440905923525979819456, 1690531050288146844703426, 3629364220533564847946054] : List Int),
    ([-2571818242252082563461974, 1540694770701007334827862, 7359980212621790703582150, 2944805384604729556035552, -7652232154255753901514370, -5113439746307243048333398, 4517767851606748619844740, -2698642895016403391454496, 2822895555272228334122224, 3485273023893816187836454, -2537222231168151167941874, -4010327433148916730841228, -2748658945872754536926570, 202035588589605452165330, 8423896063852898211931824, 3230111969948856345905118, -6859461289925530569744874, -5174876908510752313546354, 5684303502730242922504322, -4113049545223082927731240, 3033195168570519650407528, 4486040563905050928190630, -3335046081842468648781560, -4615461276269615703785266, -3350216206642040451461774, 1688049646918170116549948, 8063227074448524858149550, 2205936589579914761437602, -6242318697204659692903084, -6213787482452013684634246, 4281097804617733712415950, -1978792147721667487532890, 4882701923668630488113596, 2028232382963061895801132, -2502588117767420555867624, -4895611203465355755211816] : List Int),
    ([1125356543428620803688552, -1295992746478487445040218, -1894020221531200709574630, -523221657896239219038240, 2703741902414506797014778, 1965910700243070835403010, -893008158297465195950916, 212599733300755846884078, -2303156714387273614786254, -153633538039129552762188, 200233924645570780916352, 1617937822349081760058008, 1198686440620804086925734, 799542136716343553530428, -2571403529749177076636376, -1550845410222063866780394, 2758836222816779372221464, 1803841073309484189413430, -2134518278762150921383212, 1657332606091430096628360, 453687625602824392496730, -2003443376240602759373070, 1792916089776110858935566, 1901306935084879910552136, 90076513866078936304002, -553627051797751713421050, -3856994617769363208290184, -901255988036493916586298, 2171065400216963105886096, 1654598402220203660333346, -2259034646251428071104386, 551036050963210822795440, -1892748034658167120503654, -1111354594145820123854856, 1145162195308569896651694, 2219509016785764807260964] : List Int),
    ([521681312011389098454608, -361532029840638796299206, 3756312352631044555371618, 492609839537199026232744, -3054654710758082510155328, 107531442655391870801248, 1315449552240233658351334, -2354565867422873217038738, 4276914538880049878077526, 1330902287588577660914348, -987591396071636247426004, -1299863127567784113235178, 904826819827497735363644, 1286669368083915626999242, -588885292234391274651378, 583552256613690550940502, -1241497286053128929039498, -1681230544957071601561448, -61521324496156656890318, 3080123559599266525291936, 396377364768567160778384, -549524775866801568912628, -903628802983970269024018, 400419261018251979194122, 280728170628932731060640, 56537645668883065255834, 1801405949857074445045506, 225249409295865991721328, -3139756349613793170420080, -299790643722347101726676, 829146476714571734006344, -2339062271199060621934442, -2041586943340246367157118, 399622853826109358837096, -732966240032652302566402, -1378849936790369451240806] : List Int),
    ([2238959110330392094291384, -414564097205339479136920, -3332485531941620560910322, -1933351175204643624554796, 3346955343652726172461778, 3747808533777822955881224, -2486080714186118751196138, -293847180065438529598990, -2423281960443786140678954, -825002864966657646540416, 1158987127184709892270504, 1810558855486473475610144, 1747569011552891199257506, -524133395392091173882210, -4753989996321169173112026, -1481820772035887062263708, 4101319886975563071496970, 4315630079833274249759198, -2881867853780617407768580, 2119400232970766155195262, -536096633049470886908138, -2298420403227748770164186, 1356466763634783250335376, 3194298491649432330701948, 1075170894247322396096278, -499618645956788892985708, -5675386315193311469645400, -565733587416788657491548, 4545133803294643914005948, 2637927143670392400981884, -3564909023983321939970248, 2840893328117947964528384, -4230600444379555975171118, -2524771145919998622317534, 1572182538060370922919622, 2782713231254277428030324] : List Int),
    ([-772017960618360414799676, 70035873352703479065452, -725141096209143104781120, -781883282422567789757916, 744257091543479803946204, 1164718256420831615203868, -772907556976502899879816, -2109628326016544446076434, -2003257132326588586913582, -199904103813831828605084, 849889231075036556464282, -1249220130131235940529902, -374724077508820716494438, -951333455221199940102994, -162007674297694195533450, -64003177387373370450360, 1529300685839387007392084, 1142996187228722151367934, 51326864804844604990112, 904346143967913717841952, 2711355920404404899245516, -263275512352926954904346, -68176973169783850911764, 1084341980218598792258144, 839618535040625580763342, 483499147413310951427678, -3020277029804841357462012, 617642311233104637809826, 1710340954320706017160064, -549020097864513812839360, -1142201055400273189545616, 2935101448556875485919412, -2110128158632156210671266, -941356306375794293182622, 687434248088755257204208, 1499207157175529362840298] : List Int),
    ([572315222853969572963881, 723963401730602981679767, -3025791135835108371130533, -741473286537940717453098, 933511700966029337758067, -503124706796879787363478, -981223696596221716052023, 3703212301077864353054675, 1458302580192555389465446, -2571584031655911583961447, 1082059359139954437195184, 1956578708289313425970478, 218276548001172471791491, -691826791095782531468965, -1407493539152071682900694, 520336632807315725986389, 401208338167162105776077, -530141424039326424222142, -591685845187001592814717, -659426869865944849932130, -4635643453361324792829350, 542600606104343489279038, 574095352500192357777019, 413107469848921457798888, 1383782637424518075256015, -989964068738069984033734, 1418230235145286362472365, -1314216299715777509887689, 695914605460054820964236, 1969224073935996461119151, 627092617538257711693937, -2287934099459792080950457, 2083755277875398587608967, 451330911784785801146896, 108952679845629051713155, -247612441159767033326683] : List Int),
    ([-1466722646117100417943006, 57921203160823210925788, 3223893656214026606058792, -6784100006245893365790, -2506011059472077451014660, -670476644782539313495916, 1446450805139881374093946, -2789883942792214775253962, 153023363964429547874948, 1500646211831536783015172, -974677448556812160732262, -2042196610332771855337262, -1136117462294202702396322, 17766808804979878665634, 1745519284365920146572432, 814065076420467578896938, -1046784519963136848262496, -740614479007604008001288, 1445070557258617893291856, 263340676241135797354156, 3165701934087552721104074, 920862578592075124148984, -1211788598275389452020786, -496622812268916309987566, -961475184549033041632942, 402279216807938088694756, 1101522449933588002051518, 1755002940870806412887472, -1279376977465555188438698, -1656932253206310369200042, 586391151995595646985068, 565175635745722052889310, -1018884731271034406450620, 718595495437431143112662, -831246963762075749350234, -470376318909601771298462] : List Int),
    ([776951425321960310231236, 1537869887465066720840618, 246588371512192653782664, -356162191583473962400434, -1039074549752992631080552, -2140818127475517543020254, 233829563331360545786930, 2640805112635592059363640, 2748086755716976290821386, -291621694823137459985162, 9810456708955408954546, 255646391611835934026240, -837173865667224466527944, 1054221896574167685472010, 779232794532217222744974, -184876077788375162334810, -2830056601288292951900836, -1779473656941091607449534, 53969034315959932710590, -1822144185212130918605656, -1937231803140847917536378, 932895645283256511675196, -280795680031093664114888, -1345908877269029514458164, -791456938192202043494726, -1048451680299550676055970, 3979892385784576773118992, 803040278259738808771230, -1762492551732834776185744, -443346952488084845151994, 3221137153753729910345450, -2024294980889796987527764, 2190940065297784825112452, 1920460065926540272803340, -1634368907591258085936668, -1779186124707326973886570] : List Int),
    ([-1305089007522344540880662, 151216592068883693724326, 5326466458766685704981832, 1545069605837609807201946, -1121728978999582555845130, -2219691125277959434174420, 2707278822538150319767994, 23275842803357094520394, 4755171266821112624086132, 1079903585526033208626076, -1941846861505019077758164, -2160397342280289418517488, -2213151622846170596515022, 1611682849899303647299706, 1379376528375406809929286, 1013941434533542739801598, -2351008363789736657346532, -3856127738412070961175352, 668828269586131694148914, 1182689781186665227363604, 1183624876342711063901770, 549669081973822984995454, 148279096302595631410474, -1844971998736722529078792, -2435585430801393643470596, -814846284699734857546894, 4893485837120019763434246, 2152060137436334895777378, -3139304688337630703070556, -2369390889080101163284918, 2770080738036546623994452, -4238898777921408659663236, -1078425240253955581087490, 2720767245899969468083768, -1984613408596653571052192, -3459641360446085024343652] : List Int),
    ([2160614740549364311706440, 1188377530903384442683730, -2292138980746485948663774, -519075975037124844423168, 2138301530678004523060412, 1043732367304100961549464, -760015751915590537486882, 2936645765637286547117174, -532149838001915847148448, -830833868205434568072452, -132184907749259906469818, 1372697454871894463705732, 162023674221383243566396, 80669338448854296160766, -2396633127013617750606246, -1097436500410796339123904, 113715261703067075945240, 970218377382403934217788, -1385943204610733368475008, -1319864485651111451307484, -1749797578181384551630226, -1248758970789899924752058, 1368395114118938019805078, -268269751421971243868044, -194871951266574058256006, -1760178787427168404995658, 73761112166033796647502, -287466135416870089824942, 702690860405043909166238, 1479779664393014983170962, 888344846424584655670550, -368592203754120049828252, 844376126403887493988000, -207676374196426628441888, -412437285479923538998844, 1319833308496879393209866] : List Int),
    ([1617849545802753355849976, -656398383357818874718460, -4835440896747963046446180, -854846777340898789405224, 3410862229472848324990726, 2121705807129541441262128, -2665803074035368103661132, 2880829230540345692437276, -2581855059425124327544258, -1290813412097200832749126, 1550469524632473772640060, 3002958611703435392378164, 2467436416970837138271908, -1061383488475131680357480, -3622932100787337813854550, -1241566569571184607749754, 3017344742692241973759640, 3142770891081350982747922, -2279498260543959792443330, 282949253643829079422888, -3489528247561011236898460, -1185924001690089233746108, 1053171063600960664915670, 912251038481950274063836, 1200497925376518281031656, -328782458282966861087510, -3279782174360264796001602, -2199370510265613556405422, 3458653113103172668363696, 3143268483410523424494418, -2256481679728736816925674, 510162103265973336493096, 826698428696753364423464, -1931638391771868269018104, 1914649513978885037242754, 2170346972904055095206566] : List Int),
    ([1184714631048630281964076, -566003806012641274257208, -5136851624673967523013084, -294683626092860029369428, 3192444136718775813622814, 1767460791775402203526916, -2223482288629935912049870, 3370695751691376685545350, -2779693802893023153797426, -994440905923525979819456, 1690531050288146844703426, 3629364220533564847946054, 167485191467620935773392, -491241051865837334042092, -3558438929567179020669126, -1400144031022753019586156, 3837325846475003572111574, 2357411924215189308895562, -2096470098015922638092398, -481559674847776278597058, -3465978695001107435099924, -1221713946196974364156034, 1285454124548006602736038, 723330700630911904154828, 506087103525983268386494, -412603586279338093656586, -1325051737636551408989016, -1617691636413515379707970, 3610639993078866238984184, 2041496890952098343150930, -2124206886628737113336056, 756700965102229155484946, 1017953437888810388134546, -1980169128238842671553674, 2416374875252806838013106, 1146584033047413716025806] : List Int),
    ([-3350216206642040451461774, 1688049646918170116549948, 8063227074448524858149550, 2205936589579914761437602, -6242318697204659692903084, -6213787482452013684634246, 4281097804617733712415950, -1978792147721667487532890, 4882701923668630488113596, 2028232382963061895801132, -2502588117767420555867624, -4895611203465355755211816, -2571818242252082563461974, 1540694770701007334827862, 7359980212621790703582150, 2944805384604729556035552, -7652232154255753901514370, -5113439746307243048333398, 4517767851606748619844740, -2698642895016403391454496, 2822895555272228334122224, 3485273023893816187836454, -2537222231168151167941874, -4010327433148916730841228, -2748658945872754536926570, 202035588589605452165330, 8423896063852898211931824, 3230111969948856345905118, -6859461289925530569744874, -5174876908510752313546354, 5684303502730242922504322, -4113049545223082927731240, 3033195168570519650407528, 4486040563905050928190630, -3335046081842468648781560, -4615461276269615703785266] : List Int),
    ([90076513866078936304002, -553627051797751713421050, -3856994617769363208290184, -901255988036493916586298, 2171065400216963105886096, 1654598402220203660333346, -2259034646251428071104386, 551036050963210822795440, -1892748034658167120503654, -1111354594145820123854856, 1145162195308569896651694, 2219509016785764807260964, 1125356543428620803688552, -1295992746478487445040218, -1894020221531200709574630, -523221657896239219038240, 2703741902414506797014778, 1965910700243070835403010, -893008158297465195950916, 212599733300755846884078, -2303156714387273614786254, -153633538039129552762188, 200233924645570780916352, 1617937822349081760058008, 1198686440620804086925734, 799542136716343553530428, -2571403529749177076636376, -1550845410222063866780394, 2758836222816779372221464, 1803841073309484189413430, -2134518278762150921383212, 1657332606091430096628360, 453687625602824392496730, -2003443376240602759373070, 1792916089776110858935566, 1901306935084879910552136] : List Int),
    ([280728170628932731060640, 56537645668883065255834, 1801405949857074445045506, 225249409295865991721328, -3139756349613793170420080, -299790643722347101726676, 829146476714571734006344, -2339062271199060621934442, -2041586943340246367157118, 399622853826109358837096, -732966240032652302566402, -1378849936790369451240806, 521681312011389098454608, -361532029840638796299206, 3756312352631044555371618, 492609839537199026232744, -3054654710758082510155328, 107531442655391870801248, 1315449552240233658351334, -2354565867422873217038738, 4276914538880049878077526, 1330902287588577660914348, -987591396071636247426004, -1299863127567784113235178, 904826819827497735363644, 1286669368083915626999242, -588885292234391274651378, 583552256613690550940502, -1241497286053128929039498, -1681230544957071601561448, -61521324496156656890318, 3080123559599266525291936, 396377364768567160778384, -549524775866801568912628, -903628802983970269024018, 400419261018251979194122] : List Int),
    ([1075170894247322396096278, -499618645956788892985708, -5675386315193311469645400, -565733587416788657491548, 4545133803294643914005948, 2637927143670392400981884, -3564909023983321939970248, 2840893328117947964528384, -4230600444379555975171118, -2524771145919998622317534, 1572182538060370922919622, 2782713231254277428030324, 2238959110330392094291384, -414564097205339479136920, -3332485531941620560910322, -1933351175204643624554796, 3346955343652726172461778, 3747808533777822955881224, -2486080714186118751196138, -293847180065438529598990, -2423281960443786140678954, -825002864966657646540416, 1158987127184709892270504, 1810558855486473475610144, 1747569011552891199257506, -524133395392091173882210, -4753989996321169173112026, -1481820772035887062263708, 4101319886975563071496970, 4315630079833274249759198, -2881867853780617407768580, 2119400232970766155195262, -536096633049470886908138, -2298420403227748770164186, 1356466763634783250335376, 3194298491649432330701948] : List Int),
    ([839618535040625580763342, 483499147413310951427678, -3020277029804841357462012, 617642311233104637809826, 1710340954320706017160064, -549020097864513812839360, -1142201055400273189545616, 2935101448556875485919412, -2110128158632156210671266, -941356306375794293182622, 687434248088755257204208, 1499207157175529362840298, -772017960618360414799676, 70035873352703479065452, -725141096209143104781120, -781883282422567789757916, 744257091543479803946204, 1164718256420831615203868, -772907556976502899879816, -2109628326016544446076434, -2003257132326588586913582, -199904103813831828605084, 849889231075036556464282, -1249220130131235940529902, -374724077508820716494438, -951333455221199940102994, -162007674297694195533450, -64003177387373370450360, 1529300685839387007392084, 1142996187228722151367934, 51326864804844604990112, 904346143967913717841952, 2711355920404404899245516, -263275512352926954904346, -68176973169783850911764, 1084341980218598792258144] : List Int),
    ([1383782637424518075256015, -989964068738069984033734, 1418230235145286362472365, -1314216299715777509887689, 695914605460054820964236, 1969224073935996461119151, 627092617538257711693937, -2287934099459792080950457, 2083755277875398587608967, 451330911784785801146896, 108952679845629051713155, -247612441159767033326683, 572315222853969572963881, 723963401730602981679767, -3025791135835108371130533, -741473286537940717453098, 933511700966029337758067, -503124706796879787363478, -981223696596221716052023, 3703212301077864353054675, 1458302580192555389465446, -2571584031655911583961447, 1082059359139954437195184, 1956578708289313425970478, 218276548001172471791491, -691826791095782531468965, -1407493539152071682900694, 520336632807315725986389, 401208338167162105776077, -530141424039326424222142, -591685845187001592814717, -659426869865944849932130, -4635643453361324792829350, 542600606104343489279038, 574095352500192357777019, 413107469848921457798888] : List Int),
    ([-961475184549033041632942, 402279216807938088694756, 1101522449933588002051518, 1755002940870806412887472, -1279376977465555188438698, -1656932253206310369200042, 586391151995595646985068, 565175635745722052889310, -1018884731271034406450620, 718595495437431143112662, -831246963762075749350234, -470376318909601771298462, -1466722646117100417943006, 57921203160823210925788, 3223893656214026606058792, -6784100006245893365790, -2506011059472077451014660, -670476644782539313495916, 1446450805139881374093946, -2789883942792214775253962, 153023363964429547874948, 1500646211831536783015172, -974677448556812160732262, -2042196610332771855337262, -1136117462294202702396322, 17766808804979878665634, 1745519284365920146572432, 814065076420467578896938, -1046784519963136848262496, -740614479007604008001288, 1445070557258617893291856, 263340676241135797354156, 3165701934087552721104074, 920862578592075124148984, -1211788598275389452020786, -496622812268916309987566] : List Int),
    ([-791456938192202043494726, -1048451680299550676055970, 3979892385784576773118992, 803040278259738808771230, -1762492551732834776185744, -443346952488084845151994, 3221137153753729910345450, -2024294980889796987527764, 2190940065297784825112452, 1920460065926540272803340, -1634368907591258085936668, -1779186124707326973886570, 776951425321960310231236, 1537869887465066720840618, 246588371512192653782664, -356162191583473962400434, -1039074549752992631080552, -2140818127475517543020254, 233829563331360545786930, 2640805112635592059363640, 2748086755716976290821386, -291621694823137459985162, 9810456708955408954546, 255646391611835934026240, -837173865667224466527944, 1054221896574167685472010, 779232794532217222744974, -184876077788375162334810, -2830056601288292951900836, -1779473656941091607449534, 53969034315959932710590, -1822144185212130918605656, -1937231803140847917536378, 932895645283256511675196, -280795680031093664114888, -1345908877269029514458164] : List Int),
    ([-2435585430801393643470596, -814846284699734857546894, 4893485837120019763434246, 2152060137436334895777378, -3139304688337630703070556, -2369390889080101163284918, 2770080738036546623994452, -4238898777921408659663236, -1078425240253955581087490, 2720767245899969468083768, -1984613408596653571052192, -3459641360446085024343652, -1305089007522344540880662, 151216592068883693724326, 5326466458766685704981832, 1545069605837609807201946, -1121728978999582555845130, -2219691125277959434174420, 2707278822538150319767994, 23275842803357094520394, 4755171266821112624086132, 1079903585526033208626076, -1941846861505019077758164, -2160397342280289418517488, -2213151622846170596515022, 1611682849899303647299706, 1379376528375406809929286, 1013941434533542739801598, -2351008363789736657346532, -3856127738412070961175352, 668828269586131694148914, 1182689781186665227363604, 1183624876342711063901770, 549669081973822984995454, 148279096302595631410474, -1844971998736722529078792] : List Int),
    ([-194871951266574058256006, -1760178787427168404995658, 73761112166033796647502, -287466135416870089824942, 702690860405043909166238, 1479779664393014983170962, 888344846424584655670550, -368592203754120049828252, 844376126403887493988000, -207676374196426628441888, -412437285479923538998844, 1319833308496879393209866, 2160614740549364311706440, 1188377530903384442683730, -2292138980746485948663774, -519075975037124844423168, 2138301530678004523060412, 1043732367304100961549464, -760015751915590537486882, 2936645765637286547117174, -532149838001915847148448, -830833868205434568072452, -132184907749259906469818, 1372697454871894463705732, 162023674221383243566396, 80669338448854296160766, -2396633127013617750606246, -1097436500410796339123904, 113715261703067075945240, 970218377382403934217788, -1385943204610733368475008, -1319864485651111451307484, -1749797578181384551630226, -1248758970789899924752058, 1368395114118938019805078, -268269751421971243868044] : List Int),
    ([1200497925376518281031656, -328782458282966861087510, -3279782174360264796001602, -2199370510265613556405422, 3458653113103172668363696, 3143268483410523424494418, -2256481679728736816925674, 510162103265973336493096, 826698428696753364423464, -1931638391771868269018104, 1914649513978885037242754, 2170346972904055095206566, 1617849545802753355849976, -656398383357818874718460, -4835440896747963046446180, -854846777340898789405224, 3410862229472848324990726, 2121705807129541441262128, -2665803074035368103661132, 2880829230540345692437276, -2581855059425124327544258, -1290813412097200832749126, 1550469524632473772640060, 3002958611703435392378164, 2467436416970837138271908, -1061383488475131680357480, -3622932100787337813854550, -1241566569571184607749754, 3017344742692241973759640, 3142770891081350982747922, -2279498260543959792443330, 282949253643829079422888, -3489528247561011236898460, -1185924001690089233746108, 1053171063600960664915670, 912251038481950274063836] : List Int)]

/-- The dot product of two integer lists. -/
def dot : List Int → List Int → Int
  | a :: as, b :: bs => a * b + dot as bs
  | _, _ => 0

/-- The first twelve rows of `inverseRows` times every coefficient column give the scaled
identity. -/
theorem inverseRows_check : ((List.range 12).all fun i => (List.range 36).all fun j =>
    dot (inverseRows.getD i []) (coefficientColumns.getD j []) ==
      if i = j then (inverseFactor : Int) else 0) = true := by
  decide

/-- Every row of `inverseRows` has 36 words. -/
theorem inverseRows_length : ((List.range 36).all fun i => (inverseRows.getD i []).length == 36) =
    true := by
  decide

/-- Both integer matrices have 36 lists of 36 words. -/
theorem length_columns : coefficientColumns.length = 36 ∧ inverseRows.length = 36 ∧
    (coefficientColumns.all fun c => c.length == 36) = true ∧
    (inverseRows.all fun r => r.length == 36) = true := by
  decide

/-- Both integer matrices repeat along the diagonals of step 12: list `i + 12` is list `i`
rotated right by twelve words. -/
theorem columns_rotate :
    coefficientColumns.rotate 12 = coefficientColumns.map (fun c => c.rotate 24) ∧
    inverseRows.rotate 12 = inverseRows.map (fun r => r.rotate 24) := by
  decide

end YusVerif.LayerData
