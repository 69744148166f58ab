import TypedPreferences.Text.Quoted

/-! Bytes as texts of two hexadecimal digits each. -/

namespace TypedPreferences.Text

def hexText (bytes : List UInt8) : String :=
  String.ofList (bytes.flatMap fun b =>
    [Nat.digitChar (b.toNat / 16), Nat.digitChar (b.toNat % 16)])

def hexBytes? : List Char → Option (List UInt8)
  | [] => some []
  | [_] => none
  | a :: b :: rest => do
    let high ← hexDigit? a
    let low ← hexDigit? b
    return (16 * high + low).toUInt8 :: (← hexBytes? rest)

end TypedPreferences.Text
