/-!
# Words of 64 bits

The bounds of the integers that documents and settings may hold.
-/
namespace ManifestLint.Text

/-- The number of words of 64 bits: the unsigned words are the numbers below it. -/
def wordCount : Nat := Nat.pow 2 64

/-- Half the number of words: the signed words are the integers below it, down to its negative. -/
def signedBound : Nat := Nat.pow 2 63

end ManifestLint.Text
