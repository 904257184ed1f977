import NodeRpc.Url.Domain.Mark

/-!
# Directions

A name that holds letters written from right to left is shown in pieces, and in some
orders of its characters a piece would seem to belong to the label beside it. So if any
label holds one, each label has to begin with a letter, hold nothing of the other
direction, and end in a letter or a digit, marks behind that apart.
-/

namespace NodeRpc.Url.Domain

/-- How a character runs. -/
inductive Direction where
  | leftToRight
  | rightToLeft
  /-- A digit of those scripts that are written from right to left. -/
  | arabicDigit
  | europeanDigit
  /-- It runs with the character before it. -/
  | mark
  | neutral
  deriving DecidableEq

namespace Direction

/-- The letters beyond ASCII from right to left. These runs and those below go on over
marks and over characters that no name holds. -/
def rightToLeftRuns : Text.Runs := .ofText "
  5BE-5F4 608 60B 60D 61B-64A 66D-6D5 6E5-6E6 6EE-6EF 6FA-7F5 7FA-8C9 FBB2-FBC2 FE73 10800-1091B
  10920-10B35 10B40-10D23 10D4A-10D4F 10D6F-10D8F 10E80-10EC7 10F00-10FF6 1E800-1ED3D"

/-- The digits that run with letters from right to left. -/
def arabicDigits : Text.Runs := .ofText "660-669 66B-66C 10D30-10D49 10E60-10E7E"

def europeanDigits : Text.Runs := .ofText "6F0-6F9 102E1-102FB"

def neutralRuns : Text.Runs := .ofText "
  A1-D7 F7 2B9-2BA 2C2-2CF 2D2-2ED 2EF-2FF 375 3F6 58A-58F 606-607 609-60A 60C 60E-60F 66A 6DE 6E9
  7F6-7F9 9F2-9F3 9FB AF1 BF3-BFA C78-C7E E3F F3A-F3D 1390-1399 1400 169B-169C 17DB 17F0-180A
  1940-1945 19DE-19FF 200C-214D 218A-2335 237B-2394 2396-26AB 26AD-27FF 2900-2BFF 2CE5-2CEA
  2CF9-2CFF 2E00-3004 3008-3020 3030 3037 303D-303F 30A0 30FB 31C0-31E5 4DC0-4DFF A490-A4C6
  A60D-A60F A673-A67F A700-A721 A788 A828-A82B A838-A839 A874-A877 AB6A-AB6B FBC3-FE46 10101
  10140-1018C 10190-101A0 1091F 10B39-10B3F 10D6E 10ED0-10ED8 11052-11065 11660-1166C 11FD5-11FF1
  16FE2 1CC00-1CEF0 1D1E9-1D245 1D300-1D356 1E2FF 1EEF0-1F12F 1F16D-1F16F 1F1AD 1F260-1FBFA"

/-- The marks that run from left to right whatever is before them. -/
def leftToRightMarks : Text.Runs := .ofText "CBF CC6 11A07-11A08 11C3F"

/-- How a character that a name can hold runs. -/
def ofChar (c : Char) : Direction :=
  if Text.isAscii c then
    if c.isAlpha then leftToRight else if c.isDigit then europeanDigit else neutral
  else if isNonspacing c then if leftToRightMarks.contains c then leftToRight else mark
  else if rightToLeftRuns.contains c then rightToLeft
  else if arabicDigits.contains c then arabicDigit
  else if europeanDigits.contains c then europeanDigit
  else if neutralRuns.contains c then neutral
  else leftToRight

/-- Whether a character of this direction belongs to a text from right to left. -/
def isBackward : Direction → Bool
  | rightToLeft | arabicDigit => true
  | _ => false

/-- Whether a label with characters of these directions runs one way. A label from
right to left holds digits of one kind only. -/
def runsOneWay (label : List Direction) : Bool :=
  let last := (label.reverse.dropWhile (· = mark)).head?
  match label.head? with
  | none => true
  | some leftToRight =>
    !label.any isBackward && (last = some leftToRight || last = some europeanDigit)
  | some rightToLeft =>
    !label.contains leftToRight && last != some neutral &&
      !(label.contains arabicDigit && label.contains europeanDigit)
  | some _ => false

end Direction

/-- Whether the labels of a name are in order if one of them is from right to left. -/
def runOneWay (labels : List (List Char)) : Bool :=
  let directions := labels.map (·.map .ofChar)
  !(directions.any (·.any Direction.isBackward)) || directions.all Direction.runsOneWay

end NodeRpc.Url.Domain
