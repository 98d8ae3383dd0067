/-
**Composed characters.**

A letter with marks can be written as one character or as several. In the composed form every letter
takes as many of its marks as it can, and the marks that are left stand in a fixed order.

* `normalize`: the composed form of a text.
-/

import Docsite.Text.Ranges

namespace Docsite.Text.Compose

/-! ## Tables -/

/-- The classes of marks, each before a range of marks. -/
def classesText : String := "
    1.334-338 1.1CD4 1.1CE2-1CE8 1.20D2-20D3 1.20D8-20DA 1.20E5-20E6 1.20EA-20EB 1.10A39
    1.16AF0-16AF4 1.1BC9E 1.1D167-1D169 6.16FF0-16FF1 7.93C 7.9BC 7.A3C 7.ABC 7.B3C 7.C3C 7.CBC
    7.1037 7.1B34 7.1BE6 7.1C37 7.A9B3 7.110BA 7.11173 7.111CA 7.11236 7.112E9 7.1133B-1133C
    7.11446 7.114C3 7.115C0 7.116B7 7.1183A 7.11943 7.11D42 7.1E94A 8.3099-309A 9.94D 9.9CD 9.A4D
    9.ACD 9.B4D 9.BCD 9.C4D 9.CCD 9.D3B-D3C 9.D4D 9.DCA 9.E3A 9.EBA 9.F84 9.1039-103A 9.1714-1715
    9.1734 9.17D2 9.1A60 9.1B44 9.1BAA-1BAB 9.1BF2-1BF3 9.2D7F 9.A806 9.A82C 9.A8C4 9.A953 9.A9C0
    9.AAF6 9.ABED 9.10A3F 9.11046 9.11070 9.1107F 9.110B9 9.11133-11134 9.111C0 9.11235 9.112EA
    9.1134D 9.11442 9.114C2 9.115BF 9.1163F 9.116B6 9.1172B 9.11839 9.1193D-1193E 9.119E0 9.11A34
    9.11A47 9.11A99 9.11C3F 9.11D44-11D45 9.11D97 9.11F41-11F42 A.5B0 B.5B1 C.5B2 D.5B3 E.5B4
    F.5B5 10.5B6 11.5B7 12.5B8 12.5C7 13.5B9-5BA 14.5BB 15.5BC 16.5BD 17.5BF 18.5C1 19.5C2
    1A.FB1E 1B.64B 1B.8F0 1C.64C 1C.8F1 1D.64D 1D.8F2 1E.618 1E.64E 1F.619 1F.64F 20.61A 20.650
    21.651 22.652 23.670 24.711 54.C55 5B.C56 67.E38-E39 6B.E48-E4B 76.EB8-EB9 7A.EC8-ECB 81.F71
    82.F72 82.F7A-F7D 82.F80 84.F74 CA.321-322 CA.327-328 CA.1DD0 D6.1DCE D8.31B D8.F39
    D8.1D165-1D166 D8.1D16E-1D172 DA.1DFA DA.302A DC.316-319 DC.31C-320 DC.323-326 DC.329-333
    DC.339-33C DC.347-349 DC.34D-34E DC.353-356 DC.359-35A DC.591 DC.596 DC.59B DC.5A2-5A7 DC.5AA
    DC.5C5 DC.655-656 DC.65C DC.65F DC.6E3 DC.6EA DC.6ED DC.731 DC.734 DC.737-739 DC.73B-73C
    DC.73E DC.742 DC.744 DC.746 DC.748 DC.7F2 DC.7FD DC.859-85B DC.899-89B DC.8CF-8D3 DC.8E3
    DC.8E6 DC.8E9 DC.8ED-8EF DC.8F6 DC.8F9-8FA DC.952 DC.F18-F19 DC.F35 DC.F37 DC.FC6 DC.108D
    DC.193B DC.1A18 DC.1A7F DC.1AB5-1ABA DC.1ABD DC.1ABF-1AC0 DC.1AC3-1AC4 DC.1ACA DC.1B6C
    DC.1CD5-1CD9 DC.1CDC-1CDF DC.1CED DC.1DC2 DC.1DCA DC.1DCF DC.1DF9 DC.1DFD DC.1DFF DC.20E8
    DC.20EC-20EF DC.A92B-A92D DC.AAB4 DC.FE27-FE2D DC.101FD DC.102E0 DC.10A0D DC.10A3A DC.10AE6
    DC.10EFD-10EFF DC.10F46-10F47 DC.10F4B DC.10F4D-10F50 DC.10F83 DC.10F85 DC.1D17B-1D182
    DC.1D18A-1D18B DC.1E4EE DC.1E8D0-1E8D6 DE.59A DE.5AD DE.1939 DE.302D E0.302E-302F E2.1D16D
    E4.5AE E4.18A9 E4.1DF7-1DF8 E4.302B E6.300-314 E6.33D-346 E6.34A-34C E6.350-352 E6.357 E6.35B
    E6.363-36F E6.483-487 E6.592-595 E6.597-599 E6.59C-5A1 E6.5A8-5A9 E6.5AB-5AC E6.5AF E6.5C4
    E6.610-617 E6.653-654 E6.657-65B E6.65D-65E E6.6D6-6DC E6.6DF-6E2 E6.6E4 E6.6E7-6E8
    E6.6EB-6EC E6.730 E6.732-733 E6.735-736 E6.73A E6.73D E6.73F-741 E6.743 E6.745 E6.747
    E6.749-74A E6.7EB-7F1 E6.7F3 E6.816-819 E6.81B-823 E6.825-827 E6.829-82D E6.898 E6.89C-89F
    E6.8CA-8CE E6.8D4-8E1 E6.8E4-8E5 E6.8E7-8E8 E6.8EA-8EC E6.8F3-8F5 E6.8F7-8F8 E6.8FB-8FF
    E6.951 E6.953-954 E6.9FE E6.F82-F83 E6.F86-F87 E6.135D-135F E6.17DD E6.193A E6.1A17
    E6.1A75-1A7C E6.1AB0-1AB4 E6.1ABB-1ABC E6.1AC1-1AC2 E6.1AC5-1AC9 E6.1ACB-1ACE E6.1B6B
    E6.1B6D-1B73 E6.1CD0-1CD2 E6.1CDA-1CDB E6.1CE0 E6.1CF4 E6.1CF8-1CF9 E6.1DC0-1DC1 E6.1DC3-1DC9
    E6.1DCB-1DCC E6.1DD1-1DF5 E6.1DFB E6.1DFE E6.20D0-20D1 E6.20D4-20D7 E6.20DB-20DC E6.20E1
    E6.20E7 E6.20E9 E6.20F0 E6.2CEF-2CF1 E6.2DE0-2DFF E6.A66F E6.A674-A67D E6.A69E-A69F
    E6.A6F0-A6F1 E6.A8E0-A8F1 E6.AAB0 E6.AAB2-AAB3 E6.AAB7-AAB8 E6.AABE-AABF E6.AAC1 E6.FE20-FE26
    E6.FE2E-FE2F E6.10376-1037A E6.10A0F E6.10A38 E6.10AE5 E6.10D24-10D27 E6.10EAB-10EAC
    E6.10F48-10F4A E6.10F4C E6.10F82 E6.10F84 E6.11100-11102 E6.11366-11374 E6.1145E
    E6.16B30-16B36 E6.1D185-1D189 E6.1D1AA-1D1AD E6.1D242-1D244 E6.1E000-1E08F E6.1E130-1E136
    E6.1E2AE E6.1E2EC-1E2EF E6.1E4EF E6.1E944-1E949 E8.315 E8.31A E8.358 E8.1DF6 E8.302C
    E8.1E4EC-1E4ED E9.35C E9.35F E9.362 E9.1DFC EA.35D-35E EA.360-361 EA.1DCD
    "

/-- The composed characters behind the letter and the mark that they are composed of. -/
def pairsText : String := "
    41.300-C0 41.301-C1 41.302-C2 41.303-C3 41.308-C4 41.30A-C5 43.327-C7 45.300-C8 45.301-C9
    45.302-CA 45.308-CB 49.300-CC 49.301-CD 49.302-CE 49.308-CF 4E.303-D1 4F.300-D2 4F.301-D3
    4F.302-D4 4F.303-D5 4F.308-D6 55.300-D9 55.301-DA 55.302-DB 55.308-DC 59.301-DD 61.300-E0
    61.301-E1 61.302-E2 61.303-E3 61.308-E4 61.30A-E5 63.327-E7 65.300-E8 65.301-E9 65.302-EA
    65.308-EB 69.300-EC 69.301-ED 69.302-EE 69.308-EF 6E.303-F1 6F.300-F2 6F.301-F3 6F.302-F4
    6F.303-F5 6F.308-F6 75.300-F9 75.301-FA 75.302-FB 75.308-FC 79.301-FD 79.308-FF 41.304-100
    61.304-101 41.306-102 61.306-103 41.328-104 61.328-105 43.301-106 63.301-107 43.302-108
    63.302-109 43.307-10A 63.307-10B 43.30C-10C 63.30C-10D 44.30C-10E 64.30C-10F 45.304-112
    65.304-113 45.306-114 65.306-115 45.307-116 65.307-117 45.328-118 65.328-119 45.30C-11A
    65.30C-11B 47.302-11C 67.302-11D 47.306-11E 67.306-11F 47.307-120 67.307-121 47.327-122
    67.327-123 48.302-124 68.302-125 49.303-128 69.303-129 49.304-12A 69.304-12B 49.306-12C
    69.306-12D 49.328-12E 69.328-12F 49.307-130 4A.302-134 6A.302-135 4B.327-136 6B.327-137
    4C.301-139 6C.301-13A 4C.327-13B 6C.327-13C 4C.30C-13D 6C.30C-13E 4E.301-143 6E.301-144
    4E.327-145 6E.327-146 4E.30C-147 6E.30C-148 4F.304-14C 6F.304-14D 4F.306-14E 6F.306-14F
    4F.30B-150 6F.30B-151 52.301-154 72.301-155 52.327-156 72.327-157 52.30C-158 72.30C-159
    53.301-15A 73.301-15B 53.302-15C 73.302-15D 53.327-15E 73.327-15F 53.30C-160 73.30C-161
    54.327-162 74.327-163 54.30C-164 74.30C-165 55.303-168 75.303-169 55.304-16A 75.304-16B
    55.306-16C 75.306-16D 55.30A-16E 75.30A-16F 55.30B-170 75.30B-171 55.328-172 75.328-173
    57.302-174 77.302-175 59.302-176 79.302-177 59.308-178 5A.301-179 7A.301-17A 5A.307-17B
    7A.307-17C 5A.30C-17D 7A.30C-17E 4F.31B-1A0 6F.31B-1A1 55.31B-1AF 75.31B-1B0 41.30C-1CD
    61.30C-1CE 49.30C-1CF 69.30C-1D0 4F.30C-1D1 6F.30C-1D2 55.30C-1D3 75.30C-1D4 DC.304-1D5
    FC.304-1D6 DC.301-1D7 FC.301-1D8 DC.30C-1D9 FC.30C-1DA DC.300-1DB FC.300-1DC C4.304-1DE
    E4.304-1DF 226.304-1E0 227.304-1E1 C6.304-1E2 E6.304-1E3 47.30C-1E6 67.30C-1E7 4B.30C-1E8
    6B.30C-1E9 4F.328-1EA 6F.328-1EB 1EA.304-1EC 1EB.304-1ED 1B7.30C-1EE 292.30C-1EF 6A.30C-1F0
    47.301-1F4 67.301-1F5 4E.300-1F8 6E.300-1F9 C5.301-1FA E5.301-1FB C6.301-1FC E6.301-1FD
    D8.301-1FE F8.301-1FF 41.30F-200 61.30F-201 41.311-202 61.311-203 45.30F-204 65.30F-205
    45.311-206 65.311-207 49.30F-208 69.30F-209 49.311-20A 69.311-20B 4F.30F-20C 6F.30F-20D
    4F.311-20E 6F.311-20F 52.30F-210 72.30F-211 52.311-212 72.311-213 55.30F-214 75.30F-215
    55.311-216 75.311-217 53.326-218 73.326-219 54.326-21A 74.326-21B 48.30C-21E 68.30C-21F
    41.307-226 61.307-227 45.327-228 65.327-229 D6.304-22A F6.304-22B D5.304-22C F5.304-22D
    4F.307-22E 6F.307-22F 22E.304-230 22F.304-231 59.304-232 79.304-233 A8.301-385 391.301-386
    395.301-388 397.301-389 399.301-38A 39F.301-38C 3A5.301-38E 3A9.301-38F 3CA.301-390
    399.308-3AA 3A5.308-3AB 3B1.301-3AC 3B5.301-3AD 3B7.301-3AE 3B9.301-3AF 3CB.301-3B0
    3B9.308-3CA 3C5.308-3CB 3BF.301-3CC 3C5.301-3CD 3C9.301-3CE 3D2.301-3D3 3D2.308-3D4
    415.300-400 415.308-401 413.301-403 406.308-407 41A.301-40C 418.300-40D 423.306-40E
    418.306-419 438.306-439 435.300-450 435.308-451 433.301-453 456.308-457 43A.301-45C
    438.300-45D 443.306-45E 474.30F-476 475.30F-477 416.306-4C1 436.306-4C2 410.306-4D0
    430.306-4D1 410.308-4D2 430.308-4D3 415.306-4D6 435.306-4D7 4D8.308-4DA 4D9.308-4DB
    416.308-4DC 436.308-4DD 417.308-4DE 437.308-4DF 418.304-4E2 438.304-4E3 418.308-4E4
    438.308-4E5 41E.308-4E6 43E.308-4E7 4E8.308-4EA 4E9.308-4EB 42D.308-4EC 44D.308-4ED
    423.304-4EE 443.304-4EF 423.308-4F0 443.308-4F1 423.30B-4F2 443.30B-4F3 427.308-4F4
    447.308-4F5 42B.308-4F8 44B.308-4F9 627.653-622 627.654-623 648.654-624 627.655-625
    64A.654-626 6D5.654-6C0 6C1.654-6C2 6D2.654-6D3 928.93C-929 930.93C-931 933.93C-934
    9C7.9BE-9CB 9C7.9D7-9CC B47.B56-B48 B47.B3E-B4B B47.B57-B4C B92.BD7-B94 BC6.BBE-BCA
    BC7.BBE-BCB BC6.BD7-BCC C46.C56-C48 CBF.CD5-CC0 CC6.CD5-CC7 CC6.CD6-CC8 CC6.CC2-CCA
    CCA.CD5-CCB D46.D3E-D4A D47.D3E-D4B D46.D57-D4C DD9.DCA-DDA DD9.DCF-DDC DDC.DCA-DDD
    DD9.DDF-DDE 1025.102E-1026 1B05.1B35-1B06 1B07.1B35-1B08 1B09.1B35-1B0A 1B0B.1B35-1B0C
    1B0D.1B35-1B0E 1B11.1B35-1B12 1B3A.1B35-1B3B 1B3C.1B35-1B3D 1B3E.1B35-1B40 1B3F.1B35-1B41
    1B42.1B35-1B43 41.325-1E00 61.325-1E01 42.307-1E02 62.307-1E03 42.323-1E04 62.323-1E05
    42.331-1E06 62.331-1E07 C7.301-1E08 E7.301-1E09 44.307-1E0A 64.307-1E0B 44.323-1E0C
    64.323-1E0D 44.331-1E0E 64.331-1E0F 44.327-1E10 64.327-1E11 44.32D-1E12 64.32D-1E13
    112.300-1E14 113.300-1E15 112.301-1E16 113.301-1E17 45.32D-1E18 65.32D-1E19 45.330-1E1A
    65.330-1E1B 228.306-1E1C 229.306-1E1D 46.307-1E1E 66.307-1E1F 47.304-1E20 67.304-1E21
    48.307-1E22 68.307-1E23 48.323-1E24 68.323-1E25 48.308-1E26 68.308-1E27 48.327-1E28
    68.327-1E29 48.32E-1E2A 68.32E-1E2B 49.330-1E2C 69.330-1E2D CF.301-1E2E EF.301-1E2F
    4B.301-1E30 6B.301-1E31 4B.323-1E32 6B.323-1E33 4B.331-1E34 6B.331-1E35 4C.323-1E36
    6C.323-1E37 1E36.304-1E38 1E37.304-1E39 4C.331-1E3A 6C.331-1E3B 4C.32D-1E3C 6C.32D-1E3D
    4D.301-1E3E 6D.301-1E3F 4D.307-1E40 6D.307-1E41 4D.323-1E42 6D.323-1E43 4E.307-1E44
    6E.307-1E45 4E.323-1E46 6E.323-1E47 4E.331-1E48 6E.331-1E49 4E.32D-1E4A 6E.32D-1E4B
    D5.301-1E4C F5.301-1E4D D5.308-1E4E F5.308-1E4F 14C.300-1E50 14D.300-1E51 14C.301-1E52
    14D.301-1E53 50.301-1E54 70.301-1E55 50.307-1E56 70.307-1E57 52.307-1E58 72.307-1E59
    52.323-1E5A 72.323-1E5B 1E5A.304-1E5C 1E5B.304-1E5D 52.331-1E5E 72.331-1E5F 53.307-1E60
    73.307-1E61 53.323-1E62 73.323-1E63 15A.307-1E64 15B.307-1E65 160.307-1E66 161.307-1E67
    1E62.307-1E68 1E63.307-1E69 54.307-1E6A 74.307-1E6B 54.323-1E6C 74.323-1E6D 54.331-1E6E
    74.331-1E6F 54.32D-1E70 74.32D-1E71 55.324-1E72 75.324-1E73 55.330-1E74 75.330-1E75
    55.32D-1E76 75.32D-1E77 168.301-1E78 169.301-1E79 16A.308-1E7A 16B.308-1E7B 56.303-1E7C
    76.303-1E7D 56.323-1E7E 76.323-1E7F 57.300-1E80 77.300-1E81 57.301-1E82 77.301-1E83
    57.308-1E84 77.308-1E85 57.307-1E86 77.307-1E87 57.323-1E88 77.323-1E89 58.307-1E8A
    78.307-1E8B 58.308-1E8C 78.308-1E8D 59.307-1E8E 79.307-1E8F 5A.302-1E90 7A.302-1E91
    5A.323-1E92 7A.323-1E93 5A.331-1E94 7A.331-1E95 68.331-1E96 74.308-1E97 77.30A-1E98
    79.30A-1E99 17F.307-1E9B 41.323-1EA0 61.323-1EA1 41.309-1EA2 61.309-1EA3 C2.301-1EA4
    E2.301-1EA5 C2.300-1EA6 E2.300-1EA7 C2.309-1EA8 E2.309-1EA9 C2.303-1EAA E2.303-1EAB
    1EA0.302-1EAC 1EA1.302-1EAD 102.301-1EAE 103.301-1EAF 102.300-1EB0 103.300-1EB1 102.309-1EB2
    103.309-1EB3 102.303-1EB4 103.303-1EB5 1EA0.306-1EB6 1EA1.306-1EB7 45.323-1EB8 65.323-1EB9
    45.309-1EBA 65.309-1EBB 45.303-1EBC 65.303-1EBD CA.301-1EBE EA.301-1EBF CA.300-1EC0
    EA.300-1EC1 CA.309-1EC2 EA.309-1EC3 CA.303-1EC4 EA.303-1EC5 1EB8.302-1EC6 1EB9.302-1EC7
    49.309-1EC8 69.309-1EC9 49.323-1ECA 69.323-1ECB 4F.323-1ECC 6F.323-1ECD 4F.309-1ECE
    6F.309-1ECF D4.301-1ED0 F4.301-1ED1 D4.300-1ED2 F4.300-1ED3 D4.309-1ED4 F4.309-1ED5
    D4.303-1ED6 F4.303-1ED7 1ECC.302-1ED8 1ECD.302-1ED9 1A0.301-1EDA 1A1.301-1EDB 1A0.300-1EDC
    1A1.300-1EDD 1A0.309-1EDE 1A1.309-1EDF 1A0.303-1EE0 1A1.303-1EE1 1A0.323-1EE2 1A1.323-1EE3
    55.323-1EE4 75.323-1EE5 55.309-1EE6 75.309-1EE7 1AF.301-1EE8 1B0.301-1EE9 1AF.300-1EEA
    1B0.300-1EEB 1AF.309-1EEC 1B0.309-1EED 1AF.303-1EEE 1B0.303-1EEF 1AF.323-1EF0 1B0.323-1EF1
    59.300-1EF2 79.300-1EF3 59.323-1EF4 79.323-1EF5 59.309-1EF6 79.309-1EF7 59.303-1EF8
    79.303-1EF9 3B1.313-1F00 3B1.314-1F01 1F00.300-1F02 1F01.300-1F03 1F00.301-1F04 1F01.301-1F05
    1F00.342-1F06 1F01.342-1F07 391.313-1F08 391.314-1F09 1F08.300-1F0A 1F09.300-1F0B
    1F08.301-1F0C 1F09.301-1F0D 1F08.342-1F0E 1F09.342-1F0F 3B5.313-1F10 3B5.314-1F11
    1F10.300-1F12 1F11.300-1F13 1F10.301-1F14 1F11.301-1F15 395.313-1F18 395.314-1F19
    1F18.300-1F1A 1F19.300-1F1B 1F18.301-1F1C 1F19.301-1F1D 3B7.313-1F20 3B7.314-1F21
    1F20.300-1F22 1F21.300-1F23 1F20.301-1F24 1F21.301-1F25 1F20.342-1F26 1F21.342-1F27
    397.313-1F28 397.314-1F29 1F28.300-1F2A 1F29.300-1F2B 1F28.301-1F2C 1F29.301-1F2D
    1F28.342-1F2E 1F29.342-1F2F 3B9.313-1F30 3B9.314-1F31 1F30.300-1F32 1F31.300-1F33
    1F30.301-1F34 1F31.301-1F35 1F30.342-1F36 1F31.342-1F37 399.313-1F38 399.314-1F39
    1F38.300-1F3A 1F39.300-1F3B 1F38.301-1F3C 1F39.301-1F3D 1F38.342-1F3E 1F39.342-1F3F
    3BF.313-1F40 3BF.314-1F41 1F40.300-1F42 1F41.300-1F43 1F40.301-1F44 1F41.301-1F45
    39F.313-1F48 39F.314-1F49 1F48.300-1F4A 1F49.300-1F4B 1F48.301-1F4C 1F49.301-1F4D
    3C5.313-1F50 3C5.314-1F51 1F50.300-1F52 1F51.300-1F53 1F50.301-1F54 1F51.301-1F55
    1F50.342-1F56 1F51.342-1F57 3A5.314-1F59 1F59.300-1F5B 1F59.301-1F5D 1F59.342-1F5F
    3C9.313-1F60 3C9.314-1F61 1F60.300-1F62 1F61.300-1F63 1F60.301-1F64 1F61.301-1F65
    1F60.342-1F66 1F61.342-1F67 3A9.313-1F68 3A9.314-1F69 1F68.300-1F6A 1F69.300-1F6B
    1F68.301-1F6C 1F69.301-1F6D 1F68.342-1F6E 1F69.342-1F6F 3B1.300-1F70 3B5.300-1F72
    3B7.300-1F74 3B9.300-1F76 3BF.300-1F78 3C5.300-1F7A 3C9.300-1F7C 1F00.345-1F80 1F01.345-1F81
    1F02.345-1F82 1F03.345-1F83 1F04.345-1F84 1F05.345-1F85 1F06.345-1F86 1F07.345-1F87
    1F08.345-1F88 1F09.345-1F89 1F0A.345-1F8A 1F0B.345-1F8B 1F0C.345-1F8C 1F0D.345-1F8D
    1F0E.345-1F8E 1F0F.345-1F8F 1F20.345-1F90 1F21.345-1F91 1F22.345-1F92 1F23.345-1F93
    1F24.345-1F94 1F25.345-1F95 1F26.345-1F96 1F27.345-1F97 1F28.345-1F98 1F29.345-1F99
    1F2A.345-1F9A 1F2B.345-1F9B 1F2C.345-1F9C 1F2D.345-1F9D 1F2E.345-1F9E 1F2F.345-1F9F
    1F60.345-1FA0 1F61.345-1FA1 1F62.345-1FA2 1F63.345-1FA3 1F64.345-1FA4 1F65.345-1FA5
    1F66.345-1FA6 1F67.345-1FA7 1F68.345-1FA8 1F69.345-1FA9 1F6A.345-1FAA 1F6B.345-1FAB
    1F6C.345-1FAC 1F6D.345-1FAD 1F6E.345-1FAE 1F6F.345-1FAF 3B1.306-1FB0 3B1.304-1FB1
    1F70.345-1FB2 3B1.345-1FB3 3AC.345-1FB4 3B1.342-1FB6 1FB6.345-1FB7 391.306-1FB8 391.304-1FB9
    391.300-1FBA 391.345-1FBC A8.342-1FC1 1F74.345-1FC2 3B7.345-1FC3 3AE.345-1FC4 3B7.342-1FC6
    1FC6.345-1FC7 395.300-1FC8 397.300-1FCA 397.345-1FCC 1FBF.300-1FCD 1FBF.301-1FCE
    1FBF.342-1FCF 3B9.306-1FD0 3B9.304-1FD1 3CA.300-1FD2 3B9.342-1FD6 3CA.342-1FD7 399.306-1FD8
    399.304-1FD9 399.300-1FDA 1FFE.300-1FDD 1FFE.301-1FDE 1FFE.342-1FDF 3C5.306-1FE0 3C5.304-1FE1
    3CB.300-1FE2 3C1.313-1FE4 3C1.314-1FE5 3C5.342-1FE6 3CB.342-1FE7 3A5.306-1FE8 3A5.304-1FE9
    3A5.300-1FEA 3A1.314-1FEC A8.300-1FED 1F7C.345-1FF2 3C9.345-1FF3 3CE.345-1FF4 3C9.342-1FF6
    1FF6.345-1FF7 39F.300-1FF8 3A9.300-1FFA 3A9.345-1FFC 2190.338-219A 2192.338-219B
    2194.338-21AE 21D0.338-21CD 21D4.338-21CE 21D2.338-21CF 2203.338-2204 2208.338-2209
    220B.338-220C 2223.338-2224 2225.338-2226 223C.338-2241 2243.338-2244 2245.338-2247
    2248.338-2249 3D.338-2260 2261.338-2262 224D.338-226D 3C.338-226E 3E.338-226F 2264.338-2270
    2265.338-2271 2272.338-2274 2273.338-2275 2276.338-2278 2277.338-2279 227A.338-2280
    227B.338-2281 2282.338-2284 2283.338-2285 2286.338-2288 2287.338-2289 22A2.338-22AC
    22A8.338-22AD 22A9.338-22AE 22AB.338-22AF 227C.338-22E0 227D.338-22E1 2291.338-22E2
    2292.338-22E3 22B2.338-22EA 22B3.338-22EB 22B4.338-22EC 22B5.338-22ED 304B.3099-304C
    304D.3099-304E 304F.3099-3050 3051.3099-3052 3053.3099-3054 3055.3099-3056 3057.3099-3058
    3059.3099-305A 305B.3099-305C 305D.3099-305E 305F.3099-3060 3061.3099-3062 3064.3099-3065
    3066.3099-3067 3068.3099-3069 306F.3099-3070 306F.309A-3071 3072.3099-3073 3072.309A-3074
    3075.3099-3076 3075.309A-3077 3078.3099-3079 3078.309A-307A 307B.3099-307C 307B.309A-307D
    3046.3099-3094 309D.3099-309E 30AB.3099-30AC 30AD.3099-30AE 30AF.3099-30B0 30B1.3099-30B2
    30B3.3099-30B4 30B5.3099-30B6 30B7.3099-30B8 30B9.3099-30BA 30BB.3099-30BC 30BD.3099-30BE
    30BF.3099-30C0 30C1.3099-30C2 30C4.3099-30C5 30C6.3099-30C7 30C8.3099-30C9 30CF.3099-30D0
    30CF.309A-30D1 30D2.3099-30D3 30D2.309A-30D4 30D5.3099-30D6 30D5.309A-30D7 30D8.3099-30D9
    30D8.309A-30DA 30DB.3099-30DC 30DB.309A-30DD 30A6.3099-30F4 30EF.3099-30F7 30F0.3099-30F8
    30F1.3099-30F9 30F2.3099-30FA 30FD.3099-30FE 11099.110BA-1109A 1109B.110BA-1109C
    110A5.110BA-110AB 11131.11127-1112E 11132.11127-1112F 11347.1133E-1134B 11347.11357-1134C
    114B9.114BA-114BB 114B9.114B0-114BC 114B9.114BD-114BE 115B8.115AF-115BA 115B9.115AF-115BB
    11935.11930-11938
    "

/-- The classes of marks with their ranges. -/
def classes : List (Nat × Range) :=
  (Hex.words classesText).filterMap fun word =>
    match splitOn '.' word with
    | [number, range] => (Range.ofWord? range).map fun range => (Numeral.value 16 number, range)
    | _ => none

/-- The letter and the mark of each composed character, and that character. -/
def pairs : List ((Char × Char) × Char) :=
  (Hex.words pairsText).filterMap fun word =>
    match (splitOn '-' word).map Hex.chars with
    | [[first, second], [composed]] => some ((first, second), composed)
    | _ => none

/-! ## Single characters -/

/-- The class of a mark, by which marks are ordered; zero for all other characters. -/
def combiningClass (c : Char) : Nat :=
  if c.toNat < 0x300 then 0
  else ((classes.find? fun (_, range) => range.holds c.toNat).map Prod.fst).getD 0

/-- The first Korean syllable. -/
def firstSyllable : Nat := 0xAC00

/-- The number of Korean syllables. -/
def syllableCount : Nat := 11172

/-- The parts of a Korean syllable: a consonant, a vowel, and maybe a final consonant. -/
def syllableParts? (c : Char) : Option (List Char) :=
  let n := c.toNat - firstSyllable
  if c.toNat < firstSyllable || n ≥ syllableCount then none
  else
    let front := [Char.ofNat (0x1100 + n / 588), Char.ofNat (0x1161 + n % 588 / 28)]
    some (if n % 28 == 0 then front else front ++ [Char.ofNat (0x11A7 + n % 28)])

/-- The Korean syllable of a consonant and a vowel, or of a syllable and a final consonant. -/
def syllable? (first second : Char) : Option Char :=
  let a := first.toNat
  let b := second.toNat
  if 0x1100 ≤ a && a < 0x1113 && 0x1161 ≤ b && b < 0x1176 then
    some (Char.ofNat (firstSyllable + ((a - 0x1100) * 21 + (b - 0x1161)) * 28))
  else if firstSyllable ≤ a && a < firstSyllable + syllableCount && (a - firstSyllable) % 28 == 0 &&
      0x11A7 < b && b < 0x11C3 then
    some (Char.ofNat (a + (b - 0x11A7)))
  else none

/-- The character that two characters compose. -/
def compose? (first second : Char) : Option Char :=
  syllable? first second <|> pairs.lookup (first, second)

/-- The characters that a character is composed of. The fuel bounds how often a character can be
taken apart. -/
def decompose : Nat → Char → List Char
  | 0, c => [c]
  | fuel + 1, c =>
    if c.toNat < 0xC0 then [c]
    else match syllableParts? c with
      | some parts => parts
      | none =>
        match pairs.find? fun (_, composed) => composed == c with
        | some ((first, second), _) => decompose fuel first ++ [second]
        | none => [c]

/-! ## Texts -/

/-- A text, last character first, with one more character, which moves in front of marks of higher
classes. -/
def insertMark (c : Char) : List Char → List Char
  | [] => [c]
  | d :: before =>
    if combiningClass c != 0 && combiningClass d > combiningClass c then d :: insertMark c before
    else c :: d :: before

/-- A text with the marks behind each letter in order. -/
def sortMarks (cs : List Char) : List Char :=
  (cs.foldl (fun before c => insertMark c before) []).reverse

/-- A text with every letter composed with its marks, behind a letter and the marks that could not
be composed with it. -/
def composeFrom (starter : Option Char) (marks : List Char) : List Char → List Char
  | [] => starter.toList ++ marks
  | c :: rest =>
    let reaches := match marks.getLast? with
      | none => true
      | some last => combiningClass last < combiningClass c
    match starter, if reaches then starter.bind (compose? · c) else none with
    | _, some composed => composeFrom (some composed) marks rest
    | none, none =>
      if combiningClass c == 0 then marks ++ composeFrom (some c) [] rest
      else composeFrom none (marks ++ [c]) rest
    | some letter, none =>
      if combiningClass c == 0 then letter :: marks ++ composeFrom (some c) [] rest
      else composeFrom (some letter) (marks ++ [c]) rest

/-- How often a character can be taken apart. -/
def depth : Nat := 4

/-- The composed form of a text. -/
def normalize (cs : List Char) : List Char :=
  if cs.all (·.toNat < 0xC0) then cs
  else composeFrom none [] (sortMarks (cs.flatMap (decompose depth)))

end Docsite.Text.Compose
