import SealedGrant.Json.Reader

/-! # Bracketed hosts

A host in brackets is an address of version 6 or of a later version. A version 6 address has eight
groups of up to four hexadecimal digits; one `::` stands for the groups that are missing, the last
two groups may be written as a version 4 address, and a zone may follow a percent sign.
-/

namespace SealedGrant.RedirectUri

/-- The characters before the first occurrence of a separator. -/
def before (separator : Char) (chars : List Char) : List Char :=
  chars.takeWhile (· ≠ separator)

/-- The characters after the first occurrence of a separator; none without one. -/
def after (separator : Char) (chars : List Char) : List Char :=
  (chars.dropWhile (· ≠ separator)).drop 1

/-- The characters after the last occurrence of a separator; all without one. -/
def afterLast (separator : Char) (chars : List Char) : List Char :=
  (chars.reverse.takeWhile (· ≠ separator)).reverse

/-- Whether characters are a hexadecimal group of an address. -/
def isGroup (chars : List Char) : Bool :=
  !chars.isEmpty && chars.length ≤ 4 && chars.all fun c => (Bytes.hexValue? c).isSome

/-- Whether characters are one of the four numbers of a version 4 address, without leading zero. -/
def isOctet (chars : List Char) : Bool :=
  !chars.isEmpty && chars.length ≤ 3 && chars.all Json.isDigit &&
    (chars = ['0'] || chars.head? ≠ some '0') && Json.digitsValue chars ≤ 255

/-- Whether characters are a version 4 address. -/
def isVersion4 (chars : List Char) : Bool :=
  let octets := chars.splitOn '.'
  octets.length = 4 && octets.all isOctet

/-- The groups of a version 6 address; a version 4 address at the end stands for two of them. -/
def groups? (chars : List Char) : Option (List (List Char)) :=
  let parts := chars.splitOn ':'
  let last := parts.getLast?.getD []
  if parts.length < 3 then none
  else if last.contains '.' then
    if isVersion4 last then some (parts.dropLast ++ [['0'], ['0']]) else none
  else some parts

/-- Whether the groups around a gap are well formed: the gap may touch an end of the address only
as `::`. -/
def gapFits (parts : List (List Char)) (gap : Nat) : Bool :=
  let front := parts.take gap
  let back := parts.drop (gap + 1)
  let openFront := front.head? = some []
  let openBack := back.getLast? = some []
  let high := if openFront then front.drop 1 else front
  let low := if openBack then back.dropLast else back
  (!openFront || high.isEmpty) && (!openBack || low.isEmpty) &&
    high.length + low.length < 8 && high.all isGroup && low.all isGroup

/-- Whether the groups of an address are complete. Inside the address at most one may be empty, as
the place of the missing ones. -/
def groupsFit (parts : List (List Char)) : Bool :=
  let gaps := (List.range parts.length).filter fun i =>
    0 < i && i + 1 < parts.length && parts[i]? = some []
  parts.length ≤ 9 && match gaps with
    | [] => parts.length = 8 && parts.all isGroup
    | [gap] => gapFits parts gap
    | _ => false

/-- Whether characters are a version 6 address, with an optional zone. -/
def isVersion6 (chars : List Char) : Bool :=
  let address := before '%' chars
  let zone := after '%' chars
  let zoneFits := !chars.contains '%' || (!zone.isEmpty && !zone.contains '%')
  zoneFits && !chars.contains '/' &&
    match groups? address with
    | some parts => groupsFit parts
    | none => false

/-- Whether characters are an address of a later version: `v`, a hexadecimal version, a point, and
something after it. -/
def isLaterVersion (chars : List Char) : Bool :=
  match chars with
  | 'v' :: rest =>
      let version := before '.' rest
      rest.contains '.' && !version.isEmpty &&
        version.all (fun c => (Bytes.hexValue? c).isSome) && !(after '.' rest).isEmpty
  | _ => false

/-- Whether characters may stand in brackets as a host. -/
def isBracketedHost (chars : List Char) : Bool :=
  if chars.head? = some 'v' then isLaterVersion chars else isVersion6 chars

end SealedGrant.RedirectUri
