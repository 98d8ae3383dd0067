/-
**Case folding.**

Two texts that differ only in case have the same folded form. Most characters fold to one character;
some, such as the sharp s, fold to several.

* `fold`: the folded form of a text, by the full case folding of Unicode.
-/

import Docsite.Text.Hex

namespace Docsite.Text.Fold

/-- A run of characters that all fold by the same distance. -/
structure Run where
  first : Nat
  last : Nat
  /-- The distance between two characters of the run. -/
  step : Nat
  /-- What the first character folds to. -/
  target : Nat

/-- The runs of characters that fold to one character: first, last, step and target of each. -/
def runsText : String := "
    41-5A-1-61 100-12E-2-101 132-136-2-133 139-147-2-13A 14A-176-2-14B 178-178-1-FF 179-17D-2-17A
    17F-17F-1-73 181-181-1-253 182-184-2-183 186-186-1-254 187-187-1-188 189-18A-1-256
    18B-18B-1-18C 18E-18E-1-1DD 18F-18F-1-259 190-190-1-25B 191-191-1-192 193-193-1-260
    194-194-1-263 196-196-1-269 197-197-1-268 198-198-1-199 19C-19C-1-26F 19D-19D-1-272
    19F-19F-1-275 1A0-1A4-2-1A1 1A6-1A6-1-280 1A7-1A7-1-1A8 1A9-1A9-1-283 1AC-1AC-1-1AD
    1AE-1AE-1-288 1AF-1AF-1-1B0 1B1-1B2-1-28A 1B3-1B5-2-1B4 1B7-1B7-1-292 1B8-1B8-1-1B9
    1BC-1BC-1-1BD 1C4-1C4-1-1C6 1C5-1C5-1-1C6 1C7-1C7-1-1C9 1C8-1C8-1-1C9 1CA-1CA-1-1CC
    1CB-1DB-2-1CC 1DE-1EE-2-1DF 1F1-1F1-1-1F3 1F2-1F4-2-1F3 1F6-1F6-1-195 1F7-1F7-1-1BF
    1F8-21E-2-1F9 220-220-1-19E 222-232-2-223 23A-23A-1-2C65 23B-23B-1-23C 23D-23D-1-19A
    23E-23E-1-2C66 241-241-1-242 243-243-1-180 244-244-1-289 245-245-1-28C 246-24E-2-247
    345-345-1-3B9 370-372-2-371 376-376-1-377 37F-37F-1-3F3 386-386-1-3AC 388-38A-1-3AD
    38C-38C-1-3CC 38E-38F-1-3CD 391-3A1-1-3B1 3A3-3AB-1-3C3 3C2-3C2-1-3C3 3CF-3CF-1-3D7
    3D0-3D0-1-3B2 3D1-3D1-1-3B8 3D5-3D5-1-3C6 3D6-3D6-1-3C0 3D8-3EE-2-3D9 3F0-3F0-1-3BA
    3F1-3F1-1-3C1 3F4-3F4-1-3B8 3F5-3F5-1-3B5 3F7-3F7-1-3F8 3F9-3F9-1-3F2 3FA-3FA-1-3FB
    3FD-3FF-1-37B 400-40F-1-450 410-42F-1-430 460-480-2-461 48A-4BE-2-48B 4C0-4C0-1-4CF
    4C1-4CD-2-4C2 4D0-52E-2-4D1 531-556-1-561 10A0-10C5-1-2D00 10C7-10C7-1-2D27 10CD-10CD-1-2D2D
    13F8-13FD-1-13F0 1C80-1C80-1-432 1C81-1C81-1-434 1C82-1C82-1-43E 1C83-1C84-1-441
    1C85-1C85-1-442 1C86-1C86-1-44A 1C87-1C87-1-463 1C88-1C88-1-A64B 1C90-1CBA-1-10D0
    1CBD-1CBF-1-10FD 1E00-1E94-2-1E01 1E9B-1E9B-1-1E61 1EA0-1EFE-2-1EA1 1F08-1F0F-1-1F00
    1F18-1F1D-1-1F10 1F28-1F2F-1-1F20 1F38-1F3F-1-1F30 1F48-1F4D-1-1F40 1F59-1F5F-2-1F51
    1F68-1F6F-1-1F60 1FB8-1FB9-1-1FB0 1FBA-1FBB-1-1F70 1FBE-1FBE-1-3B9 1FC8-1FCB-1-1F72
    1FD8-1FD9-1-1FD0 1FDA-1FDB-1-1F76 1FE8-1FE9-1-1FE0 1FEA-1FEB-1-1F7A 1FEC-1FEC-1-1FE5
    1FF8-1FF9-1-1F78 1FFA-1FFB-1-1F7C 2126-2126-1-3C9 212A-212A-1-6B 212B-212B-1-E5
    2132-2132-1-214E 2160-216F-1-2170 2183-2183-1-2184 24B6-24CF-1-24D0 2C00-2C2F-1-2C30
    2C60-2C60-1-2C61 2C62-2C62-1-26B 2C63-2C63-1-1D7D 2C64-2C64-1-27D 2C67-2C6B-2-2C68
    2C6D-2C6D-1-251 2C6E-2C6E-1-271 2C6F-2C6F-1-250 2C70-2C70-1-252 2C72-2C72-1-2C73
    2C75-2C75-1-2C76 2C7E-2C7F-1-23F 2C80-2CE2-2-2C81 2CEB-2CED-2-2CEC 2CF2-2CF2-1-2CF3
    A640-A66C-2-A641 A680-A69A-2-A681 A722-A72E-2-A723 A732-A76E-2-A733 A779-A77B-2-A77A
    A77D-A77D-1-1D79 A77E-A786-2-A77F A78B-A78B-1-A78C A78D-A78D-1-265 A790-A792-2-A791
    A796-A7A8-2-A797 A7AA-A7AA-1-266 A7AB-A7AB-1-25C A7AC-A7AC-1-261 A7AD-A7AD-1-26C
    A7AE-A7AE-1-26A A7B0-A7B0-1-29E A7B1-A7B1-1-287 A7B2-A7B2-1-29D A7B3-A7B3-1-AB53
    A7B4-A7C2-2-A7B5 A7C4-A7C4-1-A794 A7C5-A7C5-1-282 A7C6-A7C6-1-1D8E A7C7-A7C9-2-A7C8
    A7D0-A7D0-1-A7D1 A7D6-A7D8-2-A7D7 A7F5-A7F5-1-A7F6 AB70-ABBF-1-13A0 FF21-FF3A-1-FF41
    10400-10427-1-10428 104B0-104D3-1-104D8 10570-10594-2-10597 10571-10579-2-10598
    1057D-10589-2-105A4 1058D-10591-2-105B4 10595-10595-1-105BC 10C80-10CB2-1-10CC0
    118A0-118BF-1-118C0 16E40-16E5F-1-16E60 1E900-1E921-1-1E922
    "

/-- The characters that fold to several. -/
def expansionsText : String := "
    130-69.307 149-2BC.6E 1F0-6A.30C 390-3B9.308.301 3B0-3C5.308.301 587-565.582 1E96-68.331
    1E97-74.308 1E98-77.30A 1E99-79.30A 1E9A-61.2BE 1E9E-73.73 1F50-3C5.313 1F52-3C5.313.300
    1F54-3C5.313.301 1F56-3C5.313.342 1F80-1F00.3B9 1F81-1F01.3B9 1F82-1F02.3B9 1F83-1F03.3B9
    1F84-1F04.3B9 1F85-1F05.3B9 1F86-1F06.3B9 1F87-1F07.3B9 1F88-1F00.3B9 1F89-1F01.3B9
    1F8A-1F02.3B9 1F8B-1F03.3B9 1F8C-1F04.3B9 1F8D-1F05.3B9 1F8E-1F06.3B9 1F8F-1F07.3B9
    1F90-1F20.3B9 1F91-1F21.3B9 1F92-1F22.3B9 1F93-1F23.3B9 1F94-1F24.3B9 1F95-1F25.3B9
    1F96-1F26.3B9 1F97-1F27.3B9 1F98-1F20.3B9 1F99-1F21.3B9 1F9A-1F22.3B9 1F9B-1F23.3B9
    1F9C-1F24.3B9 1F9D-1F25.3B9 1F9E-1F26.3B9 1F9F-1F27.3B9 1FA0-1F60.3B9 1FA1-1F61.3B9
    1FA2-1F62.3B9 1FA3-1F63.3B9 1FA4-1F64.3B9 1FA5-1F65.3B9 1FA6-1F66.3B9 1FA7-1F67.3B9
    1FA8-1F60.3B9 1FA9-1F61.3B9 1FAA-1F62.3B9 1FAB-1F63.3B9 1FAC-1F64.3B9 1FAD-1F65.3B9
    1FAE-1F66.3B9 1FAF-1F67.3B9 1FB2-1F70.3B9 1FB3-3B1.3B9 1FB4-3AC.3B9 1FB6-3B1.342
    1FB7-3B1.342.3B9 1FBC-3B1.3B9 1FC2-1F74.3B9 1FC3-3B7.3B9 1FC4-3AE.3B9 1FC6-3B7.342
    1FC7-3B7.342.3B9 1FCC-3B7.3B9 1FD2-3B9.308.300 1FD3-3B9.308.301 1FD6-3B9.342 1FD7-3B9.308.342
    1FE2-3C5.308.300 1FE3-3C5.308.301 1FE4-3C1.313 1FE6-3C5.342 1FE7-3C5.308.342 1FF2-1F7C.3B9
    1FF3-3C9.3B9 1FF4-3CE.3B9 1FF6-3C9.342 1FF7-3C9.342.3B9 1FFC-3C9.3B9 FB00-66.66 FB01-66.69
    FB02-66.6C FB03-66.66.69 FB04-66.66.6C FB05-73.74 FB06-73.74 FB13-574.576 FB14-574.565
    FB15-574.56B FB16-57E.576 FB17-574.56D
    "

/-- The runs of characters that fold to one character. -/
def runs : List Run :=
  (Hex.words runsText).filterMap fun word =>
    match (splitOn '-' word).map (Numeral.value 16) with
    | [first, last, step, target] => some { first, last, step, target }
    | _ => none

/-- The characters that fold to several, with what they fold to. -/
def expansions : List (Nat × List Char) :=
  (Hex.words expansionsText).filterMap fun word =>
    match splitOn '-' word with
    | [source, target] => some (Numeral.value 16 source, Hex.chars target)
    | _ => none

/-- Whether a run holds a code point. -/
def Run.holds (run : Run) (n : Nat) : Bool :=
  run.first ≤ n && n ≤ run.last && (n - run.first) % run.step == 0

/-- What a character folds to. -/
def foldChar (c : Char) : List Char :=
  if c.toNat < 0x80 then [c.toLower]
  else match expansions.lookup c.toNat with
    | some target => target
    | none =>
      match runs.find? (·.holds c.toNat) with
      | some run => [Char.ofNat (c.toNat - run.first + run.target)]
      | none => [c]

/-- The folded form of a text. -/
def fold (cs : List Char) : List Char :=
  cs.flatMap foldChar

end Docsite.Text.Fold
