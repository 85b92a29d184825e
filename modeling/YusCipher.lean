import YusCipher.Model.Utils
import YusCipher.Model.SBox
import YusCipher.Model.LinearLayer
import YusCipher.Model.RoundKey
import YusCipher.Model.Cipher
import YusCipher.Model.Process
import YusCipher.Model.Prime
import YusCipher.Model.FheWrapper
import YusCipher.Model.Program
import YusCipher.Verif.Field
import YusCipher.Verif.Bytes
import YusCipher.Verif.LinearLayer
import YusCipher.Verif.Circulant
import YusCipher.Verif.LayerData
import YusCipher.Verif.LayerInverse
import YusCipher.Verif.FourRussians
import YusCipher.Verif.BranchData
import YusCipher.Verif.Branch
import YusCipher.Verif.SBoxAlgebra
import YusCipher.Verif.SBox
import YusCipher.Verif.Differential
import YusCipher.Verif.RoundKey
import YusCipher.Verif.Keystream
import YusCipher.Verif.Modulus
import YusCipher.Verif.Process
import YusCipher.Verif.Degree
import YusCipher.Verif.Refinement
import YusCipher.Verif.Prime
import YusCipher.Verif.Packing
import YusCipher.Verif.Isolation
