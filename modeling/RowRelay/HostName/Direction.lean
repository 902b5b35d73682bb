import RowRelay.Text.Mark

/-!
# The direction of names

A name with letters that are written from right to left keeps its parts apart on paper only when
every part runs one way: begins with a letter, has no letters of the other way, and ends with a
letter or a figure, whatever marks stand on it.
-/

set_option autoImplicit false

namespace RowRelay.HostName

/-- Which way a character is written. Figures and the rest go with what is around them. -/
inductive Direction where
  | rightward
  | leftward
  | figure
  /-- A figure as it is written with Arabic letters. -/
  | arabicFigure
  | mark
  | neutral
  deriving DecidableEq, Repr

/-- The code points at which the letters written from right to left begin or end, in turn. -/
def leftwardBounds : List Nat := [
    0x5BE, 0x5BF, 0x5C0, 0x5C1, 0x5C3, 0x5C4, 0x5C6, 0x5C7, 0x5D0, 0x5F5, 0x608, 0x609, 0x60B,
    0x60C, 0x60D, 0x60E, 0x61B, 0x64B, 0x66D, 0x670, 0x671, 0x6D6, 0x6E5, 0x6E7, 0x6EE, 0x6F0,
    0x6FA, 0x711, 0x712, 0x730, 0x74D, 0x7A6, 0x7B1, 0x7EB, 0x7F4, 0x7F6, 0x7FA, 0x7FB, 0x7FE,
    0x816, 0x81A, 0x81B, 0x824, 0x825, 0x828, 0x829, 0x830, 0x859, 0x85E, 0x890, 0x8A0, 0x8CA,
    0xFBB2, 0xFBC3, 0xFE73, 0xFE74, 0x10800, 0x1091C, 0x10920, 0x10A01, 0x10A10, 0x10A36, 0x10A40,
    0x10AE5, 0x10AEB, 0x10B36, 0x10B40, 0x10D24, 0x10D40, 0x10D50, 0x10D6F, 0x10D90, 0x10E80,
    0x10EAA, 0x10EAD, 0x10EC8, 0x10F00, 0x10F46, 0x10F51, 0x10F82, 0x10F86, 0x10FF7, 0x1E800,
    0x1E8D0, 0x1E922, 0x1E944, 0x1E94B, 0x1ED3E]

/-- The code points at which the figures begin or end, in turn. -/
def figureBounds : List Nat := [
    0x30, 0x3A, 0x6F0, 0x6FA, 0x102E1, 0x102FC]

/-- The code points at which the Arabic figures begin or end, in turn. -/
def arabicFigureBounds : List Nat := [
    0x660, 0x66A, 0x66B, 0x66D, 0x10D30, 0x10D3A, 0x10E60, 0x10E7F]

/-- The code points at which the characters without a direction begin or end, in turn. -/
def neutralBounds : List Nat := [
    0x0, 0x9, 0xE, 0x1C, 0x21, 0x30, 0x3A, 0x61, 0x7B, 0xD8, 0xF7, 0xF8, 0x2B9, 0x2BB, 0x2C2, 0x2D0,
    0x2D2, 0x2EE, 0x2EF, 0x300, 0x375, 0x376, 0x3F6, 0x3F7, 0x58A, 0x590, 0x606, 0x608, 0x609,
    0x60B, 0x60C, 0x60D, 0x60E, 0x610, 0x66A, 0x66B, 0x6DE, 0x6DF, 0x6E9, 0x6EA, 0x7F6, 0x7FA,
    0x9F2, 0x9F4, 0x9FB, 0x9FC, 0xAF1, 0xAF2, 0xBF3, 0xBFB, 0xC78, 0xC7F, 0xE3F, 0xE40, 0xF3A,
    0xF3E, 0x1390, 0x139A, 0x1400, 0x1401, 0x169B, 0x169D, 0x17DB, 0x17DC, 0x17F0, 0x180B, 0x1940,
    0x1946, 0x19DE, 0x1A00, 0x200C, 0x20C2, 0x2104, 0x214E, 0x218A, 0x2336, 0x237B, 0x2395, 0x2396,
    0x26AC, 0x26AD, 0x2800, 0x2900, 0x2C00, 0x2CE5, 0x2CEB, 0x2CF9, 0x2D00, 0x2E00, 0x3005, 0x3008,
    0x3021, 0x3030, 0x3031, 0x3037, 0x3038, 0x303D, 0x3040, 0x30A0, 0x30A1, 0x30FB, 0x30FC, 0x31C0,
    0x31E6, 0x4DC0, 0x4E00, 0xA490, 0xA4C7, 0xA60D, 0xA610, 0xA673, 0xA674, 0xA67E, 0xA680, 0xA700,
    0xA722, 0xA788, 0xA789, 0xA828, 0xA82C, 0xA838, 0xA83A, 0xA874, 0xA878, 0xAB6A, 0xAB6C, 0xFBC3,
    0xFE00, 0xFE45, 0xFE47, 0x10101, 0x10102, 0x10140, 0x1018D, 0x10190, 0x101A1, 0x1091F, 0x10920,
    0x10B39, 0x10B40, 0x10D6E, 0x10D6F, 0x10ED0, 0x10ED9, 0x11052, 0x11066, 0x11660, 0x1166D,
    0x11FD5, 0x11FF2, 0x16FE2, 0x16FE3, 0x1CC00, 0x1CEF1, 0x1D1E9, 0x1D242, 0x1D245, 0x1D246,
    0x1D300, 0x1D357, 0x1E2FF, 0x1E300, 0x1EEF0, 0x1F130, 0x1F16D, 0x1F170, 0x1F1AD, 0x1F1AE,
    0x1F260, 0x1FBFB]

def direction (c : Char) : Direction :=
  let n := c.toNat
  if Text.isNonspacing c then .mark
  else if Text.liesWithin leftwardBounds n then .leftward
  else if Text.liesWithin figureBounds n then .figure
  else if Text.liesWithin arabicFigureBounds n then .arabicFigure
  else if Text.liesWithin neutralBounds n then .neutral
  else .rightward

/-- What a part ends with, marks aside. -/
def ending (ds : List Direction) : Option Direction :=
  ds.reverse.find? (· != .mark)

/-- Whether a part of a name runs one way. -/
def runsOneWay (part : List Char) : Bool :=
  let ds := part.map direction
  match ds.head? with
  | none => true
  | some .rightward =>
    ds.all (fun d => d != .leftward && d != .arabicFigure) &&
      [some .rightward, some .figure].contains (ending ds)
  | some .leftward =>
    ds.all (· != .rightward) && !(ds.contains .figure && ds.contains .arabicFigure) &&
      [some .leftward, some .figure, some .arabicFigure].contains (ending ds)
  | some _ => false

/-- Whether the parts of a name are in order: all run one way if there is anything in one that is
written from right to left. -/
def directionsFit (parts : List (List Char)) : Bool :=
  let isTurned (c : Char) : Bool := [.leftward, .arabicFigure].contains (direction c)
  !(parts.any (·.any isTurned)) || parts.all runsOneWay

end RowRelay.HostName
