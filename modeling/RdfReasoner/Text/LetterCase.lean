import RdfReasoner.Text.CharSet

/-!
# Letter case

Characters that differ in case only have one representative in common.  `caseRuns` lists the
characters other than their representatives: a run `(first, last, step, other)` stands for every
`step`-th code point from `first` to `last`; the representative of the first is `other`, and those
of the next ones follow in the same steps.
-/

namespace RdfReasoner.Text

/-- The characters that are not the representative of their case class, in runs. -/
def caseRuns : List (Nat × Nat × Nat × Nat) := [
  (97, 122, 1, 65), (224, 246, 1, 192), (248, 254, 1, 216), (257, 303, 2, 256), (307, 311, 2, 306),
  (314, 328, 2, 313), (331, 375, 2, 330), (376, 376, 1, 255), (378, 382, 2, 377), (383, 383, 1, 83),
  (387, 389, 2, 386), (392, 392, 1, 391), (396, 396, 1, 395), (402, 402, 1, 401),
  (409, 409, 1, 408), (417, 421, 2, 416), (424, 424, 1, 423), (429, 429, 1, 428),
  (432, 432, 1, 431), (436, 438, 2, 435), (441, 441, 1, 440), (445, 445, 1, 444),
  (453, 453, 1, 452), (454, 454, 1, 452), (456, 456, 1, 455), (457, 457, 1, 455),
  (459, 459, 1, 458), (460, 460, 1, 458), (462, 476, 2, 461), (477, 477, 1, 398),
  (479, 495, 2, 478), (498, 498, 1, 497), (499, 499, 1, 497), (501, 501, 1, 500),
  (502, 502, 1, 405), (503, 503, 1, 447), (505, 543, 2, 504), (544, 544, 1, 414),
  (547, 563, 2, 546), (572, 572, 1, 571), (573, 573, 1, 410), (578, 578, 1, 577),
  (579, 579, 1, 384), (583, 591, 2, 582), (595, 595, 1, 385), (596, 596, 1, 390),
  (598, 599, 1, 393), (601, 601, 1, 399), (603, 603, 1, 400), (608, 608, 1, 403),
  (611, 611, 1, 404), (616, 616, 1, 407), (617, 617, 1, 406), (623, 623, 1, 412),
  (626, 626, 1, 413), (629, 629, 1, 415), (640, 640, 1, 422), (643, 643, 1, 425),
  (648, 648, 1, 430), (649, 649, 1, 580), (650, 651, 1, 433), (652, 652, 1, 581),
  (658, 658, 1, 439), (881, 883, 2, 880), (887, 887, 1, 886), (921, 921, 1, 837),
  (924, 924, 1, 181), (940, 940, 1, 902), (941, 943, 1, 904), (945, 952, 1, 913),
  (953, 953, 1, 837), (954, 955, 1, 922), (956, 956, 1, 181), (957, 971, 2, 925),
  (958, 960, 2, 926), (962, 962, 1, 931), (964, 970, 2, 932), (972, 972, 1, 908),
  (973, 974, 1, 910), (976, 976, 1, 914), (977, 977, 1, 920), (981, 981, 1, 934),
  (982, 982, 1, 928), (983, 983, 1, 975), (985, 1007, 2, 984), (1008, 1008, 1, 922),
  (1009, 1009, 1, 929), (1011, 1011, 1, 895), (1012, 1012, 1, 920), (1013, 1013, 1, 917),
  (1016, 1016, 1, 1015), (1017, 1017, 1, 1010), (1019, 1019, 1, 1018), (1021, 1023, 1, 891),
  (1072, 1103, 1, 1040), (1104, 1119, 1, 1024), (1121, 1153, 2, 1120), (1163, 1215, 2, 1162),
  (1218, 1230, 2, 1217), (1231, 1231, 1, 1216), (1233, 1327, 2, 1232), (1377, 1414, 1, 1329),
  (5112, 5117, 1, 5104), (7296, 7296, 1, 1042), (7297, 7297, 1, 1044), (7298, 7298, 1, 1054),
  (7299, 7300, 1, 1057), (7301, 7301, 1, 1058), (7302, 7302, 1, 1066), (7303, 7303, 1, 1122),
  (7306, 7306, 1, 7305), (7312, 7354, 1, 4304), (7357, 7359, 1, 4349), (7681, 7829, 2, 7680),
  (7835, 7835, 1, 7776), (7838, 7838, 1, 223), (7841, 7935, 2, 7840), (7944, 7951, 1, 7936),
  (7960, 7965, 1, 7952), (7976, 7983, 1, 7968), (7992, 7999, 1, 7984), (8008, 8013, 1, 8000),
  (8025, 8031, 2, 8017), (8040, 8047, 1, 8032), (8072, 8079, 1, 8064), (8088, 8095, 1, 8080),
  (8104, 8111, 1, 8096), (8120, 8121, 1, 8112), (8122, 8123, 1, 8048), (8124, 8124, 1, 8115),
  (8126, 8126, 1, 837), (8136, 8139, 1, 8050), (8140, 8140, 1, 8131), (8147, 8147, 1, 912),
  (8152, 8153, 1, 8144), (8154, 8155, 1, 8054), (8163, 8163, 1, 944), (8168, 8169, 1, 8160),
  (8170, 8171, 1, 8058), (8172, 8172, 1, 8165), (8184, 8185, 1, 8056), (8186, 8187, 1, 8060),
  (8188, 8188, 1, 8179), (8486, 8486, 1, 937), (8490, 8490, 1, 75), (8491, 8491, 1, 197),
  (8526, 8526, 1, 8498), (8560, 8575, 1, 8544), (8580, 8580, 1, 8579), (9424, 9449, 1, 9398),
  (11312, 11359, 1, 11264), (11361, 11361, 1, 11360), (11362, 11362, 1, 619),
  (11363, 11363, 1, 7549), (11364, 11364, 1, 637), (11365, 11365, 1, 570), (11366, 11366, 1, 574),
  (11368, 11372, 2, 11367), (11373, 11373, 1, 593), (11374, 11374, 1, 625), (11375, 11375, 1, 592),
  (11376, 11376, 1, 594), (11379, 11379, 1, 11378), (11382, 11382, 1, 11381),
  (11390, 11391, 1, 575), (11393, 11491, 2, 11392), (11500, 11502, 2, 11499),
  (11507, 11507, 1, 11506), (11520, 11557, 1, 4256), (11559, 11559, 1, 4295),
  (11565, 11565, 1, 4301), (42561, 42569, 2, 42560), (42570, 42570, 1, 7304),
  (42571, 42571, 1, 7304), (42573, 42605, 2, 42572), (42625, 42651, 2, 42624),
  (42787, 42799, 2, 42786), (42803, 42863, 2, 42802), (42874, 42876, 2, 42873),
  (42877, 42877, 1, 7545), (42879, 42887, 2, 42878), (42892, 42892, 1, 42891),
  (42893, 42893, 1, 613), (42897, 42899, 2, 42896), (42903, 42921, 2, 42902),
  (42922, 42922, 1, 614), (42923, 42923, 1, 604), (42924, 42924, 1, 609), (42925, 42925, 1, 620),
  (42926, 42926, 1, 618), (42928, 42928, 1, 670), (42929, 42929, 1, 647), (42930, 42930, 1, 669),
  (42933, 42947, 2, 42932), (42948, 42948, 1, 42900), (42949, 42949, 1, 642),
  (42950, 42950, 1, 7566), (42952, 42954, 2, 42951), (42955, 42955, 1, 612),
  (42957, 42957, 1, 42956), (42961, 42961, 1, 42960), (42967, 42971, 2, 42966),
  (42972, 42972, 1, 411), (42998, 42998, 1, 42997), (43859, 43859, 1, 42931),
  (43888, 43967, 1, 5024), (64262, 64262, 1, 64261), (65345, 65370, 1, 65313),
  (66600, 66639, 1, 66560), (66776, 66811, 1, 66736), (66967, 67003, 2, 66928),
  (66968, 66976, 2, 66929), (66980, 66992, 2, 66941), (66996, 67000, 2, 66957),
  (67004, 67004, 1, 66965), (68800, 68850, 1, 68736), (68976, 68997, 1, 68944),
  (71872, 71903, 1, 71840), (93792, 93823, 1, 93760), (125218, 125251, 1, 125184)]

/-- Every character that is not the representative of its case class, with the representative, in
ascending order. -/
def casePairs : List (Nat × Nat) :=
  (caseRuns.flatMap fun (first, last, step, other) =>
    (List.range ((last - first) / step + 1)).map fun i =>
      (first + i * step, other + i * step)).mergeSort
    fun a b => a.1 ≤ b.1

/-- Every representative with each of the other members of its case class, in ascending order. -/
def representedPairs : List (Nat × Nat) :=
  (casePairs.map fun (c, r) => (r, c)).mergeSort fun a b => a.1 ≤ b.1

/-- What is paired with the code points in some ranges.  Pairs and ranges are in ascending order. -/
def pairedWith : List (Nat × Nat) → List (Nat × Nat) → List Nat
  | [], _ | _, [] => []
  | (c, d) :: pairs, (lo, hi) :: ranges =>
    if c < lo then pairedWith pairs ((lo, hi) :: ranges)
    else if c ≤ hi then d :: pairedWith pairs ((lo, hi) :: ranges)
    else pairedWith ((c, d) :: pairs) ranges
termination_by pairs ranges => pairs.length + ranges.length

end RdfReasoner.Text

namespace RdfReasoner.CharSet

/-- A list of code points as a set. -/
def ofCodes (codes : List Nat) : CharSet := ⟨codes.map fun code => (code, code)⟩

/-- The set with every character that differs from a member in case only. -/
def closeUnderCase (s : CharSet) : CharSet :=
  let s := s.normalize
  let folded := (s.union (.ofCodes (Text.pairedWith Text.casePairs s.ranges))).normalize
  folded.union (.ofCodes (Text.pairedWith Text.representedPairs folded.ranges))

/-- The set with the other case of every ASCII letter in it. -/
def closeUnderAsciiCase (s : CharSet) : CharSet :=
  let shifted (lo hi : Nat) (shift : Nat → Nat) :=
    (List.range (hi + 1 - lo)).filterMap fun i =>
      if s.holdsCode (lo + i) then some (shift (lo + i), shift (lo + i)) else none
  ⟨s.ranges ++ shifted 0x41 0x5A (· + 0x20) ++ shifted 0x61 0x7A (· - 0x20)⟩

end RdfReasoner.CharSet
