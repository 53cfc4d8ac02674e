/-!
# Letter case

The simple case mappings of Unicode 15.0: a character has at most one lower-case and one
upper-case partner, and a text changes case one character at a time, so its length never
changes (the dotted capital I lowers to a plain `i`; the long s uppers to `S`).

The tables list, in ascending and disjoint runs, the characters that change: a run goes from
`lo` to `hi` in steps of `step`, and its characters all move by the same distance, `lo` to
`target`. Any other character is its own partner.

Comparing a text with an ASCII name while ignoring case needs less: an ASCII letter matches its
other case, the long s matches `s` and the Kelvin sign matches `k`, and nothing else outside
ASCII matches an ASCII character (`fold`).
-/

namespace MeshCall.Case

/-- The runs of characters that have a lower-case partner: `(lo, hi, target, step)`. -/
def lowerRuns : Array (Nat × Nat × Nat × Nat) :=
  #[(65, 90, 97, 1), (192, 214, 224, 1), (216, 222, 248, 1), (256, 302, 257, 2), (304, 304, 105, 1),
   (306, 310, 307, 2), (313, 327, 314, 2), (330, 374, 331, 2), (376, 376, 255, 1),
   (377, 381, 378, 2), (385, 385, 595, 1), (386, 388, 387, 2), (390, 390, 596, 1),
   (391, 391, 392, 1), (393, 394, 598, 1), (395, 395, 396, 1), (398, 398, 477, 1),
   (399, 399, 601, 1), (400, 400, 603, 1), (401, 401, 402, 1), (403, 403, 608, 1),
   (404, 404, 611, 1), (406, 406, 617, 1), (407, 407, 616, 1), (408, 408, 409, 1),
   (412, 412, 623, 1), (413, 413, 626, 1), (415, 415, 629, 1), (416, 420, 417, 2),
   (422, 422, 640, 1), (423, 423, 424, 1), (425, 425, 643, 1), (428, 428, 429, 1),
   (430, 430, 648, 1), (431, 431, 432, 1), (433, 434, 650, 1), (435, 437, 436, 2),
   (439, 439, 658, 1), (440, 440, 441, 1), (444, 444, 445, 1), (452, 452, 454, 1),
   (453, 453, 454, 1), (455, 455, 457, 1), (456, 456, 457, 1), (458, 458, 460, 1),
   (459, 475, 460, 2), (478, 494, 479, 2), (497, 497, 499, 1), (498, 500, 499, 2),
   (502, 502, 405, 1), (503, 503, 447, 1), (504, 542, 505, 2), (544, 544, 414, 1),
   (546, 562, 547, 2), (570, 570, 11365, 1), (571, 571, 572, 1), (573, 573, 410, 1),
   (574, 574, 11366, 1), (577, 577, 578, 1), (579, 579, 384, 1), (580, 580, 649, 1),
   (581, 581, 652, 1), (582, 590, 583, 2), (880, 882, 881, 2), (886, 886, 887, 1),
   (895, 895, 1011, 1), (902, 902, 940, 1), (904, 906, 941, 1), (908, 908, 972, 1),
   (910, 911, 973, 1), (913, 929, 945, 1), (931, 939, 963, 1), (975, 975, 983, 1),
   (984, 1006, 985, 2), (1012, 1012, 952, 1), (1015, 1015, 1016, 1), (1017, 1017, 1010, 1),
   (1018, 1018, 1019, 1), (1021, 1023, 891, 1), (1024, 1039, 1104, 1), (1040, 1071, 1072, 1),
   (1120, 1152, 1121, 2), (1162, 1214, 1163, 2), (1216, 1216, 1231, 1), (1217, 1229, 1218, 2),
   (1232, 1326, 1233, 2), (1329, 1366, 1377, 1), (4256, 4293, 11520, 1), (4295, 4295, 11559, 1),
   (4301, 4301, 11565, 1), (5024, 5103, 43888, 1), (5104, 5109, 5112, 1), (7312, 7354, 4304, 1),
   (7357, 7359, 4349, 1), (7680, 7828, 7681, 2), (7838, 7838, 223, 1), (7840, 7934, 7841, 2),
   (7944, 7951, 7936, 1), (7960, 7965, 7952, 1), (7976, 7983, 7968, 1), (7992, 7999, 7984, 1),
   (8008, 8013, 8000, 1), (8025, 8031, 8017, 2), (8040, 8047, 8032, 1), (8072, 8079, 8064, 1),
   (8088, 8095, 8080, 1), (8104, 8111, 8096, 1), (8120, 8121, 8112, 1), (8122, 8123, 8048, 1),
   (8124, 8124, 8115, 1), (8136, 8139, 8050, 1), (8140, 8140, 8131, 1), (8152, 8153, 8144, 1),
   (8154, 8155, 8054, 1), (8168, 8169, 8160, 1), (8170, 8171, 8058, 1), (8172, 8172, 8165, 1),
   (8184, 8185, 8056, 1), (8186, 8187, 8060, 1), (8188, 8188, 8179, 1), (8486, 8486, 969, 1),
   (8490, 8490, 107, 1), (8491, 8491, 229, 1), (8498, 8498, 8526, 1), (8544, 8559, 8560, 1),
   (8579, 8579, 8580, 1), (9398, 9423, 9424, 1), (11264, 11311, 11312, 1), (11360, 11360, 11361, 1),
   (11362, 11362, 619, 1), (11363, 11363, 7549, 1), (11364, 11364, 637, 1),
   (11367, 11371, 11368, 2), (11373, 11373, 593, 1), (11374, 11374, 625, 1), (11375, 11375, 592, 1),
   (11376, 11376, 594, 1), (11378, 11378, 11379, 1), (11381, 11381, 11382, 1),
   (11390, 11391, 575, 1), (11392, 11490, 11393, 2), (11499, 11501, 11500, 2),
   (11506, 11506, 11507, 1), (42560, 42604, 42561, 2), (42624, 42650, 42625, 2),
   (42786, 42798, 42787, 2), (42802, 42862, 42803, 2), (42873, 42875, 42874, 2),
   (42877, 42877, 7545, 1), (42878, 42886, 42879, 2), (42891, 42891, 42892, 1),
   (42893, 42893, 613, 1), (42896, 42898, 42897, 2), (42902, 42920, 42903, 2),
   (42922, 42922, 614, 1), (42923, 42923, 604, 1), (42924, 42924, 609, 1), (42925, 42925, 620, 1),
   (42926, 42926, 618, 1), (42928, 42928, 670, 1), (42929, 42929, 647, 1), (42930, 42930, 669, 1),
   (42931, 42931, 43859, 1), (42932, 42946, 42933, 2), (42948, 42948, 42900, 1),
   (42949, 42949, 642, 1), (42950, 42950, 7566, 1), (42951, 42953, 42952, 2),
   (42960, 42960, 42961, 1), (42966, 42968, 42967, 2), (42997, 42997, 42998, 1),
   (65313, 65338, 65345, 1), (66560, 66599, 66600, 1), (66736, 66771, 66776, 1),
   (66928, 66938, 66967, 1), (66940, 66954, 66979, 1), (66956, 66962, 66995, 1),
   (66964, 66965, 67003, 1), (68736, 68786, 68800, 1), (71840, 71871, 71872, 1),
   (93760, 93791, 93792, 1), (125184, 125217, 125218, 1)]

/-- The runs of characters that have an upper-case partner: `(lo, hi, target, step)`. -/
def upperRuns : Array (Nat × Nat × Nat × Nat) :=
  #[(97, 122, 65, 1), (181, 181, 924, 1), (224, 246, 192, 1), (248, 254, 216, 1),
   (255, 255, 376, 1), (257, 303, 256, 2), (305, 305, 73, 1), (307, 311, 306, 2),
   (314, 328, 313, 2), (331, 375, 330, 2), (378, 382, 377, 2), (383, 383, 83, 1),
   (384, 384, 579, 1), (387, 389, 386, 2), (392, 392, 391, 1), (396, 396, 395, 1),
   (402, 402, 401, 1), (405, 405, 502, 1), (409, 409, 408, 1), (410, 410, 573, 1),
   (414, 414, 544, 1), (417, 421, 416, 2), (424, 424, 423, 1), (429, 429, 428, 1),
   (432, 432, 431, 1), (436, 438, 435, 2), (441, 441, 440, 1), (445, 445, 444, 1),
   (447, 447, 503, 1), (453, 453, 452, 1), (454, 454, 452, 1), (456, 456, 455, 1),
   (457, 457, 455, 1), (459, 459, 458, 1), (460, 460, 458, 1), (462, 476, 461, 2),
   (477, 477, 398, 1), (479, 495, 478, 2), (498, 498, 497, 1), (499, 499, 497, 1),
   (501, 501, 500, 1), (505, 543, 504, 2), (547, 563, 546, 2), (572, 572, 571, 1),
   (575, 576, 11390, 1), (578, 578, 577, 1), (583, 591, 582, 2), (592, 592, 11375, 1),
   (593, 593, 11373, 1), (594, 594, 11376, 1), (595, 595, 385, 1), (596, 596, 390, 1),
   (598, 599, 393, 1), (601, 601, 399, 1), (603, 603, 400, 1), (604, 604, 42923, 1),
   (608, 608, 403, 1), (609, 609, 42924, 1), (611, 611, 404, 1), (613, 613, 42893, 1),
   (614, 614, 42922, 1), (616, 616, 407, 1), (617, 617, 406, 1), (618, 618, 42926, 1),
   (619, 619, 11362, 1), (620, 620, 42925, 1), (623, 623, 412, 1), (625, 625, 11374, 1),
   (626, 626, 413, 1), (629, 629, 415, 1), (637, 637, 11364, 1), (640, 640, 422, 1),
   (642, 642, 42949, 1), (643, 643, 425, 1), (647, 647, 42929, 1), (648, 648, 430, 1),
   (649, 649, 580, 1), (650, 651, 433, 1), (652, 652, 581, 1), (658, 658, 439, 1),
   (669, 669, 42930, 1), (670, 670, 42928, 1), (837, 837, 921, 1), (881, 883, 880, 2),
   (887, 887, 886, 1), (891, 893, 1021, 1), (940, 940, 902, 1), (941, 943, 904, 1),
   (945, 961, 913, 1), (962, 962, 931, 1), (963, 971, 931, 1), (972, 972, 908, 1),
   (973, 974, 910, 1), (976, 976, 914, 1), (977, 977, 920, 1), (981, 981, 934, 1),
   (982, 982, 928, 1), (983, 983, 975, 1), (985, 1007, 984, 2), (1008, 1008, 922, 1),
   (1009, 1009, 929, 1), (1010, 1010, 1017, 1), (1011, 1011, 895, 1), (1013, 1013, 917, 1),
   (1016, 1016, 1015, 1), (1019, 1019, 1018, 1), (1072, 1103, 1040, 1), (1104, 1119, 1024, 1),
   (1121, 1153, 1120, 2), (1163, 1215, 1162, 2), (1218, 1230, 1217, 2), (1231, 1231, 1216, 1),
   (1233, 1327, 1232, 2), (1377, 1414, 1329, 1), (4304, 4346, 7312, 1), (4349, 4351, 7357, 1),
   (5112, 5117, 5104, 1), (7296, 7296, 1042, 1), (7297, 7297, 1044, 1), (7298, 7298, 1054, 1),
   (7299, 7300, 1057, 1), (7301, 7301, 1058, 1), (7302, 7302, 1066, 1), (7303, 7303, 1122, 1),
   (7304, 7304, 42570, 1), (7545, 7545, 42877, 1), (7549, 7549, 11363, 1), (7566, 7566, 42950, 1),
   (7681, 7829, 7680, 2), (7835, 7835, 7776, 1), (7841, 7935, 7840, 2), (7936, 7943, 7944, 1),
   (7952, 7957, 7960, 1), (7968, 7975, 7976, 1), (7984, 7991, 7992, 1), (8000, 8005, 8008, 1),
   (8017, 8023, 8025, 2), (8032, 8039, 8040, 1), (8048, 8049, 8122, 1), (8050, 8053, 8136, 1),
   (8054, 8055, 8154, 1), (8056, 8057, 8184, 1), (8058, 8059, 8170, 1), (8060, 8061, 8186, 1),
   (8064, 8071, 8072, 1), (8080, 8087, 8088, 1), (8096, 8103, 8104, 1), (8112, 8113, 8120, 1),
   (8115, 8115, 8124, 1), (8126, 8126, 921, 1), (8131, 8131, 8140, 1), (8144, 8145, 8152, 1),
   (8160, 8161, 8168, 1), (8165, 8165, 8172, 1), (8179, 8179, 8188, 1), (8526, 8526, 8498, 1),
   (8560, 8575, 8544, 1), (8580, 8580, 8579, 1), (9424, 9449, 9398, 1), (11312, 11359, 11264, 1),
   (11361, 11361, 11360, 1), (11365, 11365, 570, 1), (11366, 11366, 574, 1),
   (11368, 11372, 11367, 2), (11379, 11379, 11378, 1), (11382, 11382, 11381, 1),
   (11393, 11491, 11392, 2), (11500, 11502, 11499, 2), (11507, 11507, 11506, 1),
   (11520, 11557, 4256, 1), (11559, 11559, 4295, 1), (11565, 11565, 4301, 1),
   (42561, 42605, 42560, 2), (42625, 42651, 42624, 2), (42787, 42799, 42786, 2),
   (42803, 42863, 42802, 2), (42874, 42876, 42873, 2), (42879, 42887, 42878, 2),
   (42892, 42892, 42891, 1), (42897, 42899, 42896, 2), (42900, 42900, 42948, 1),
   (42903, 42921, 42902, 2), (42933, 42947, 42932, 2), (42952, 42954, 42951, 2),
   (42961, 42961, 42960, 1), (42967, 42969, 42966, 2), (42998, 42998, 42997, 1),
   (43859, 43859, 42931, 1), (43888, 43967, 5024, 1), (65345, 65370, 65313, 1),
   (66600, 66639, 66560, 1), (66776, 66811, 66736, 1), (66967, 66977, 66928, 1),
   (66979, 66993, 66940, 1), (66995, 67001, 66956, 1), (67003, 67004, 66964, 1),
   (68800, 68850, 68736, 1), (71872, 71903, 71840, 1), (93792, 93823, 93760, 1),
   (125218, 125251, 125184, 1)]

/-- The partner of `v` from the run holding it, searching the runs from `lo` to `hi`. -/
def partner (runs : Array (Nat × Nat × Nat × Nat)) (v : Nat) (lo hi : Nat) : Option Nat :=
  if lo < hi then
    let mid := (lo + hi) / 2
    match runs[mid]? with
    | some (a, b, target, step) =>
      if v < a then partner runs v lo mid
      else if b < v then partner runs v (mid + 1) hi
      else if (v - a) % step == 0 then some (target + (v - a))
      else none
    | none => none
  else none
termination_by hi - lo

/-- A character's partner from the runs, or the character itself. -/
def mapChar (runs : Array (Nat × Nat × Nat × Nat)) (c : Char) : Char :=
  match partner runs c.toNat 0 runs.size with
  | some p => Char.ofNat p
  | none => c

def lowerChar (c : Char) : Char := mapChar lowerRuns c

def upperChar (c : Char) : Char := mapChar upperRuns c

def toLower (s : String) : String := s.map lowerChar

def toUpper (s : String) : String := s.map upperChar

/-- A character as a case-blind comparison with ASCII sees it: an ASCII letter in upper case,
the long s as `S`, the Kelvin sign as `K`, any other character as itself. -/
def foldChar (c : Char) : Char :=
  if 'a' ≤ c && c ≤ 'z' then Char.ofNat (c.toNat - 32)
  else if c.toNat == 0x17F then 'S'
  else if c.toNat == 0x212A then 'K'
  else c

/-- A text as a case-blind comparison with an ASCII name sees it: a text equals an ASCII name
ignoring case exactly when their folds are equal. -/
def fold (s : String) : String := s.map foldChar

end MeshCall.Case
