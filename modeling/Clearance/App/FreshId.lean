/-! Names for transactions that were given none: random identifiers of version 4. -/
namespace Clearance.App.FreshId

def hexDigit (n : UInt8) : Char := Nat.digitChar n.toNat

def hex (bytes : List UInt8) : String :=
  String.ofList (bytes.flatMap fun (b : UInt8) => [hexDigit (b >>> 4), hexDigit (b &&& 0x0F)])

/-- Puts the version into the seventh byte and the variant into the ninth. -/
def marked (bytes : List UInt8) : List UInt8 :=
  (bytes.modify 6 fun b => (b &&& 0x0F) ||| 0x40).modify 8 fun b => (b &&& 0x3F) ||| 0x80

/-- The identifier of sixteen random bytes. -/
def ofBytes (bytes : List UInt8) : String :=
  let b := marked bytes
  "-".intercalate [hex (b.take 4), hex ((b.drop 4).take 2), hex ((b.drop 6).take 2),
    hex ((b.drop 8).take 2), hex (b.drop 10)]

example : ofBytes (List.replicate 16 0xAB) = "abababab-abab-4bab-abab-abababababab" := by
  decide +kernel

end Clearance.App.FreshId
