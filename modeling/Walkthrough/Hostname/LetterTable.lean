/-!
Letters beyond the English ones that may stand in a name of a host, by the direction in which they
are written. A run is a first code, a last one and the distance between neighbours.
-/

namespace Walkthrough.Hostname

def leftRuns : List (Nat × Nat × Nat) :=
  [(223, 246, 1), (248, 255, 1), (257, 305, 2), (309, 309, 1), (311, 312, 1), (314, 318, 2),
   (322, 328, 2), (331, 375, 2), (378, 384, 2), (387, 387, 1), (389, 389, 1), (392, 392, 1),
   (396, 397, 1), (402, 402, 1), (405, 405, 1), (409, 411, 1), (414, 414, 1), (417, 421, 2),
   (424, 424, 1), (426, 427, 1), (429, 429, 1), (432, 432, 1), (436, 436, 1), (438, 438, 1),
   (441, 443, 1), (445, 451, 1), (462, 476, 2), (477, 495, 2), (496, 496, 1), (501, 501, 1),
   (505, 563, 2), (564, 569, 1), (572, 572, 1), (575, 576, 1), (578, 578, 1), (583, 591, 2),
   (592, 687, 1), (699, 705, 1), (720, 721, 1), (750, 750, 1), (881, 881, 1), (883, 883, 1),
   (887, 887, 1), (891, 893, 1), (912, 912, 1), (940, 974, 1), (983, 1007, 2), (1011, 1011, 1),
   (1016, 1016, 1), (1019, 1020, 1), (1072, 1119, 1), (1121, 1153, 2), (1163, 1215, 2),
   (1218, 1230, 2), (1231, 1327, 2), (1369, 1369, 1), (1376, 1414, 1), (1416, 1416, 1),
   (2307, 2361, 1), (2363, 2363, 1), (2365, 2368, 1), (2377, 2380, 1), (2382, 2384, 1),
   (2400, 2401, 1), (2406, 2415, 1), (2417, 2432, 1), (2434, 2435, 1), (2437, 2444, 1),
   (2447, 2448, 1), (2451, 2472, 1), (2474, 2480, 1), (2482, 2482, 1), (2486, 2489, 1),
   (2493, 2496, 1), (2503, 2504, 1), (2507, 2508, 1), (2510, 2510, 1), (2519, 2519, 1),
   (2528, 2529, 1), (2534, 2545, 1), (2556, 2556, 1), (2563, 2563, 1), (2565, 2570, 1),
   (2575, 2576, 1), (2579, 2600, 1), (2602, 2608, 1), (2610, 2610, 1), (2613, 2613, 1),
   (2616, 2617, 1), (2622, 2624, 1), (2652, 2652, 1), (2662, 2671, 1), (2674, 2676, 1),
   (2691, 2691, 1), (2693, 2701, 1), (2703, 2705, 1), (2707, 2728, 1), (2730, 2736, 1),
   (2738, 2739, 1), (2741, 2745, 1), (2749, 2752, 1), (2761, 2761, 1), (2763, 2764, 1),
   (2768, 2768, 1), (2784, 2785, 1), (2790, 2799, 1), (2809, 2809, 1), (2818, 2819, 1),
   (2821, 2828, 1), (2831, 2832, 1), (2835, 2856, 1), (2858, 2864, 1), (2866, 2867, 1),
   (2869, 2873, 1), (2877, 2878, 1), (2880, 2880, 1), (2887, 2888, 1), (2891, 2892, 1),
   (2903, 2903, 1), (2911, 2913, 1), (2918, 2927, 1), (2929, 2929, 1), (2947, 2947, 1),
   (2949, 2954, 1), (2958, 2960, 1), (2962, 2965, 1), (2969, 2970, 1), (2972, 2972, 1),
   (2974, 2975, 1), (2979, 2980, 1), (2984, 2986, 1), (2990, 3001, 1), (3006, 3007, 1),
   (3009, 3010, 1), (3014, 3016, 1), (3018, 3020, 1), (3024, 3024, 1), (3031, 3031, 1),
   (3046, 3055, 1), (3073, 3075, 1), (3077, 3084, 1), (3086, 3088, 1), (3090, 3112, 1),
   (3114, 3129, 1), (3133, 3133, 1), (3137, 3140, 1), (3160, 3162, 1), (3165, 3165, 1),
   (3168, 3169, 1), (3174, 3183, 1), (3200, 3200, 1), (3202, 3203, 1), (3205, 3212, 1),
   (3214, 3216, 1), (3218, 3240, 1), (3242, 3251, 1), (3253, 3257, 1), (3261, 3268, 1),
   (3270, 3272, 1), (3274, 3275, 1), (3285, 3286, 1), (3293, 3294, 1), (3296, 3297, 1),
   (3302, 3311, 1), (3313, 3314, 1), (3330, 3340, 1), (3342, 3344, 1), (3346, 3386, 1),
   (3389, 3392, 1), (3398, 3400, 1), (3402, 3404, 1), (3406, 3406, 1), (3412, 3415, 1),
   (3423, 3425, 1), (3430, 3439, 1), (3450, 3455, 1), (3458, 3459, 1), (3461, 3478, 1),
   (3482, 3505, 1), (3507, 3515, 1), (3517, 3517, 1), (3520, 3526, 1), (3535, 3537, 1),
   (3544, 3551, 1), (3558, 3567, 1), (3570, 3571, 1), (3585, 3632, 1), (3634, 3634, 1),
   (3648, 3654, 1), (3664, 3673, 1), (3713, 3714, 1), (3716, 3716, 1), (3718, 3722, 1),
   (3724, 3747, 1), (3749, 3749, 1), (3751, 3760, 1), (3762, 3762, 1), (3773, 3773, 1),
   (3776, 3780, 1), (3782, 3782, 1), (3792, 3801, 1), (3806, 3807, 1), (3840, 3840, 1),
   (3851, 3851, 1), (3872, 3881, 1), (3902, 3906, 1), (3908, 3911, 1), (3913, 3916, 1),
   (3918, 3921, 1), (3923, 3926, 1), (3928, 3931, 1), (3933, 3944, 1), (3946, 3948, 1),
   (3967, 3967, 1), (3976, 3980, 1), (4096, 4140, 1), (4145, 4145, 1), (4152, 4152, 1),
   (4155, 4156, 1), (4159, 4169, 1), (4176, 4183, 1), (4186, 4189, 1), (4193, 4208, 1),
   (4213, 4225, 1), (4227, 4228, 1), (4231, 4236, 1), (4238, 4252, 1), (4304, 4346, 1),
   (4349, 4351, 1), (4608, 4680, 1), (4682, 4685, 1), (4688, 4694, 1), (4696, 4696, 1),
   (4698, 4701, 1), (4704, 4744, 1), (4746, 4749, 1), (4752, 4784, 1), (4786, 4789, 1),
   (4792, 4798, 1), (4800, 4800, 1), (4802, 4805, 1), (4808, 4822, 1), (4824, 4880, 1),
   (4882, 4885, 1), (4888, 4954, 1), (4992, 5007, 1), (5024, 5109, 1), (5121, 5740, 1),
   (5743, 5759, 1), (5761, 5786, 1), (5792, 5866, 1), (5873, 5880, 1), (5888, 5905, 1),
   (5909, 5909, 1), (5919, 5937, 1), (5940, 5940, 1), (5952, 5969, 1), (5984, 5996, 1),
   (5998, 6000, 1), (6016, 6067, 1), (6070, 6070, 1), (6078, 6085, 1), (6087, 6088, 1),
   (6103, 6103, 1), (6108, 6108, 1), (6112, 6121, 1), (6160, 6169, 1), (6176, 6264, 1),
   (6272, 6276, 1), (6279, 6312, 1), (6314, 6314, 1), (6320, 6389, 1), (6400, 6430, 1),
   (6435, 6438, 1), (6441, 6443, 1), (6448, 6449, 1), (6451, 6456, 1), (6470, 6509, 1),
   (6512, 6516, 1), (6528, 6571, 1), (6576, 6601, 1), (6608, 6617, 1), (6656, 6678, 1),
   (6681, 6682, 1), (6688, 6741, 1), (6743, 6743, 1), (6753, 6753, 1), (6755, 6756, 1),
   (6765, 6770, 1), (6784, 6793, 1), (6800, 6809, 1), (6823, 6823, 1), (6916, 6963, 1),
   (6965, 6965, 1), (6971, 6971, 1), (6973, 6977, 1), (6979, 6988, 1), (6992, 7001, 1),
   (7042, 7073, 1), (7078, 7079, 1), (7082, 7082, 1), (7086, 7141, 1), (7143, 7143, 1),
   (7146, 7148, 1), (7150, 7150, 1), (7154, 7155, 1), (7168, 7211, 1), (7220, 7221, 1),
   (7232, 7241, 1), (7245, 7293, 1), (7393, 7393, 1), (7401, 7404, 1), (7406, 7411, 1),
   (7413, 7415, 1), (7418, 7418, 1), (7424, 7467, 1), (7471, 7471, 1), (7483, 7483, 1),
   (7502, 7502, 1), (7531, 7543, 1), (7545, 7578, 1), (7681, 7829, 2), (7830, 7833, 1),
   (7836, 7837, 1), (7839, 7935, 2), (7936, 7943, 1), (7952, 7957, 1), (7968, 7975, 1),
   (7984, 7991, 1), (8000, 8005, 1), (8016, 8023, 1), (8032, 8039, 1), (8048, 8060, 2),
   (8112, 8113, 1), (8118, 8118, 1), (8134, 8134, 1), (8144, 8146, 1), (8150, 8151, 1),
   (8160, 8162, 1), (8164, 8167, 1), (8182, 8182, 1), (8526, 8526, 1), (8580, 8580, 1),
   (11312, 11359, 1), (11361, 11361, 1), (11365, 11366, 1), (11368, 11372, 2), (11377, 11377, 1),
   (11379, 11380, 1), (11382, 11387, 1), (11393, 11491, 2), (11492, 11492, 1), (11500, 11500, 1),
   (11502, 11502, 1), (11507, 11507, 1), (11520, 11557, 1), (11559, 11559, 1), (11565, 11565, 1),
   (11568, 11623, 1), (11648, 11670, 1), (11680, 11686, 1), (11688, 11694, 1), (11696, 11702, 1),
   (11704, 11710, 1), (11712, 11718, 1), (11720, 11726, 1), (11728, 11734, 1), (11736, 11742, 1),
   (12293, 12295, 1), (12348, 12348, 1), (12353, 12438, 1), (12445, 12446, 1), (12449, 12538, 1),
   (12540, 12542, 1), (12549, 12591, 1), (12704, 12735, 1), (12784, 12799, 1), (13312, 19903, 1),
   (19968, 42124, 1), (42192, 42237, 1), (42240, 42508, 1), (42512, 42539, 1), (42561, 42605, 2),
   (42606, 42606, 1), (42625, 42651, 2), (42656, 42725, 1), (42787, 42799, 2), (42800, 42801, 1),
   (42803, 42865, 2), (42866, 42872, 1), (42874, 42874, 1), (42876, 42876, 1), (42879, 42887, 2),
   (42892, 42892, 1), (42894, 42895, 1), (42897, 42897, 1), (42899, 42901, 1), (42903, 42921, 2),
   (42927, 42927, 1), (42933, 42947, 2), (42952, 42952, 1), (42954, 42954, 1), (42961, 42969, 2),
   (42998, 42999, 1), (43002, 43009, 1), (43011, 43013, 1), (43015, 43018, 1), (43020, 43044, 1),
   (43047, 43047, 1), (43072, 43123, 1), (43136, 43203, 1), (43216, 43225, 1), (43250, 43255, 1),
   (43259, 43259, 1), (43261, 43262, 1), (43264, 43301, 1), (43312, 43334, 1), (43346, 43347, 1),
   (43395, 43442, 1), (43444, 43445, 1), (43450, 43451, 1), (43454, 43456, 1), (43471, 43481, 1),
   (43488, 43492, 1), (43494, 43518, 1), (43520, 43560, 1), (43567, 43568, 1), (43571, 43572, 1),
   (43584, 43586, 1), (43588, 43595, 1), (43597, 43597, 1), (43600, 43609, 1), (43616, 43638, 1),
   (43642, 43643, 1), (43645, 43695, 1), (43697, 43697, 1), (43701, 43702, 1), (43705, 43709, 1),
   (43712, 43712, 1), (43714, 43714, 1), (43739, 43741, 1), (43744, 43755, 1), (43758, 43759, 1),
   (43762, 43765, 1), (43777, 43782, 1), (43785, 43790, 1), (43793, 43798, 1), (43808, 43814, 1),
   (43816, 43822, 1), (43824, 43866, 1), (43872, 43880, 1), (43968, 44004, 1), (44006, 44007, 1),
   (44009, 44010, 1), (44012, 44012, 1), (44016, 44025, 1), (44032, 55203, 1), (64014, 64015, 1),
   (64017, 64017, 1), (64019, 64020, 1), (64031, 64035, 2), (64036, 64036, 1), (64039, 64041, 1),
   (65536, 65547, 1), (65549, 65574, 1), (65576, 65594, 1), (65596, 65597, 1), (65599, 65613, 1),
   (65616, 65629, 1), (65664, 65786, 1), (66176, 66204, 1), (66208, 66256, 1), (66304, 66335, 1),
   (66349, 66368, 1), (66370, 66377, 1), (66384, 66421, 1), (66432, 66461, 1), (66464, 66499, 1),
   (66504, 66511, 1), (66600, 66717, 1), (66720, 66729, 1), (66776, 66811, 1), (66816, 66855, 1),
   (66864, 66915, 1), (66967, 66977, 1), (66979, 66993, 1), (66995, 67001, 1), (67003, 67004, 1),
   (67072, 67382, 1), (67392, 67413, 1), (67424, 67431, 1), (67456, 67456, 1), (69632, 69632, 1),
   (69634, 69687, 1), (69734, 69743, 1), (69745, 69746, 1), (69749, 69749, 1), (69762, 69810, 1),
   (69815, 69816, 1), (69840, 69864, 1), (69872, 69881, 1), (69891, 69926, 1), (69932, 69932, 1),
   (69942, 69951, 1), (69956, 69959, 1), (69968, 70002, 1), (70006, 70006, 1), (70018, 70069, 1),
   (70079, 70084, 1), (70094, 70094, 1), (70096, 70106, 1), (70108, 70108, 1), (70144, 70161, 1),
   (70163, 70190, 1), (70194, 70195, 1), (70197, 70197, 1), (70272, 70278, 1), (70280, 70280, 1),
   (70282, 70285, 1), (70287, 70301, 1), (70303, 70312, 1), (70320, 70366, 1), (70368, 70370, 1),
   (70384, 70393, 1), (70402, 70403, 1), (70405, 70412, 1), (70415, 70416, 1), (70419, 70440, 1),
   (70442, 70448, 1), (70450, 70451, 1), (70453, 70457, 1), (70461, 70463, 1), (70465, 70468, 1),
   (70471, 70472, 1), (70475, 70477, 1), (70480, 70480, 1), (70487, 70487, 1), (70493, 70499, 1),
   (70656, 70711, 1), (70720, 70721, 1), (70725, 70725, 1), (70727, 70730, 1), (70736, 70745, 1),
   (70751, 70753, 1), (70784, 70834, 1), (70841, 70841, 1), (70843, 70846, 1), (70849, 70849, 1),
   (70852, 70853, 1), (70855, 70855, 1), (70864, 70873, 1), (71040, 71089, 1), (71096, 71099, 1),
   (71102, 71102, 1), (71128, 71131, 1), (71168, 71218, 1), (71227, 71228, 1), (71230, 71230, 1),
   (71236, 71236, 1), (71248, 71257, 1), (71296, 71338, 1), (71340, 71340, 1), (71342, 71343, 1),
   (71350, 71350, 1), (71352, 71352, 1), (71360, 71369, 1), (71424, 71450, 1), (71456, 71457, 1),
   (71462, 71462, 1), (71472, 71481, 1), (71488, 71494, 1), (71680, 71726, 1), (71736, 71736, 1),
   (71872, 71913, 1), (71935, 71942, 1), (71945, 71945, 1), (71948, 71955, 1), (71957, 71958, 1),
   (71960, 71989, 1), (71991, 71992, 1), (71997, 71997, 1), (71999, 72002, 1), (72016, 72025, 1),
   (72096, 72103, 1), (72106, 72147, 1), (72156, 72159, 1), (72161, 72161, 1), (72163, 72164, 1),
   (72192, 72192, 1), (72199, 72200, 1), (72203, 72242, 1), (72249, 72250, 1), (72272, 72272, 1),
   (72279, 72280, 1), (72284, 72329, 1), (72343, 72343, 1), (72349, 72349, 1), (72368, 72440, 1),
   (72704, 72712, 1), (72714, 72751, 1), (72766, 72768, 1), (72784, 72793, 1), (72818, 72847, 1),
   (72873, 72873, 1), (72881, 72881, 1), (72884, 72884, 1), (72960, 72966, 1), (72968, 72969, 1),
   (72971, 73008, 1), (73030, 73030, 1), (73040, 73049, 1), (73056, 73061, 1), (73063, 73064, 1),
   (73066, 73102, 1), (73107, 73108, 1), (73110, 73110, 1), (73112, 73112, 1), (73120, 73129, 1),
   (73440, 73458, 1), (73461, 73462, 1), (73648, 73648, 1), (73728, 74649, 1), (74880, 75075, 1),
   (77712, 77808, 1), (77824, 78894, 1), (82944, 83526, 1), (92160, 92728, 1), (92736, 92766, 1),
   (92768, 92777, 1), (92784, 92862, 1), (92864, 92873, 1), (92880, 92909, 1), (92928, 92975, 1),
   (92992, 92995, 1), (93008, 93017, 1), (93027, 93047, 1), (93053, 93071, 1), (93792, 93823, 1),
   (93952, 94026, 1), (94032, 94087, 1), (94099, 94111, 1), (94176, 94177, 1), (94179, 94179, 1),
   (94192, 94193, 1), (94208, 100343, 1), (100352, 101589, 1), (101632, 101640, 1),
   (110576, 110579, 1), (110581, 110587, 1), (110589, 110590, 1), (110592, 110882, 1),
   (110928, 110930, 1), (110948, 110951, 1), (110960, 111355, 1), (113664, 113770, 1),
   (113776, 113788, 1), (113792, 113800, 1), (113808, 113817, 1), (122624, 122654, 1),
   (123136, 123180, 1), (123191, 123197, 1), (123200, 123209, 1), (123214, 123214, 1),
   (123536, 123565, 1), (123584, 123627, 1), (123632, 123641, 1), (124896, 124902, 1),
   (124904, 124907, 1), (124909, 124910, 1), (124912, 124926, 1), (131072, 173791, 1),
   (173824, 177976, 1), (177984, 178205, 1), (178208, 183969, 1), (183984, 191456, 1),
   (196608, 201546, 1)]

def rightRuns : List (Nat × Nat × Nat) :=
  [(1488, 1514, 1), (1519, 1522, 1), (1568, 1599, 1), (1601, 1610, 1), (1646, 1647, 1),
   (1649, 1652, 1), (1657, 1747, 1), (1749, 1749, 1), (1765, 1766, 1), (1774, 1775, 1),
   (1786, 1791, 1), (1808, 1808, 1), (1810, 1839, 1), (1869, 1957, 1), (1969, 1969, 1),
   (1984, 2026, 1), (2036, 2037, 1), (2048, 2069, 1), (2074, 2074, 1), (2084, 2084, 1),
   (2088, 2088, 1), (2112, 2136, 1), (2144, 2154, 1), (2160, 2183, 1), (2185, 2190, 1),
   (2208, 2249, 1), (65139, 65139, 1), (67584, 67589, 1), (67592, 67592, 1), (67594, 67637, 1),
   (67639, 67640, 1), (67644, 67644, 1), (67647, 67669, 1), (67680, 67702, 1), (67712, 67742, 1),
   (67808, 67826, 1), (67828, 67829, 1), (67840, 67861, 1), (67872, 67897, 1), (67968, 68023, 1),
   (68030, 68031, 1), (68096, 68096, 1), (68112, 68115, 1), (68117, 68119, 1), (68121, 68149, 1),
   (68192, 68220, 1), (68224, 68252, 1), (68288, 68295, 1), (68297, 68324, 1), (68352, 68405, 1),
   (68416, 68437, 1), (68448, 68466, 1), (68480, 68497, 1), (68608, 68680, 1), (68800, 68850, 1),
   (68864, 68899, 1), (69248, 69289, 1), (69296, 69297, 1), (69376, 69404, 1), (69415, 69415, 1),
   (69424, 69445, 1), (69488, 69505, 1), (69552, 69572, 1), (69600, 69622, 1),
   (124928, 125124, 1), (125218, 125251, 1), (125259, 125259, 1), (125264, 125273, 1)]

def markRuns : List (Nat × Nat × Nat) :=
  [(768, 831, 1), (834, 834, 1), (838, 846, 1), (848, 879, 1), (1155, 1159, 1), (1425, 1469, 1),
   (1471, 1471, 1), (1473, 1474, 1), (1476, 1477, 1), (1479, 1479, 1), (1552, 1562, 1),
   (1611, 1631, 1), (1648, 1648, 1), (1750, 1756, 1), (1759, 1764, 1), (1767, 1768, 1),
   (1770, 1773, 1), (1809, 1809, 1), (1840, 1866, 1), (1958, 1968, 1), (2027, 2035, 1),
   (2045, 2045, 1), (2070, 2073, 1), (2075, 2083, 1), (2085, 2087, 1), (2089, 2093, 1),
   (2137, 2139, 1), (2200, 2207, 1), (2250, 2273, 1), (2275, 2306, 1), (2362, 2362, 1),
   (2364, 2364, 1), (2369, 2376, 1), (2381, 2381, 1), (2385, 2391, 1), (2402, 2403, 1),
   (2433, 2433, 1), (2492, 2492, 1), (2497, 2500, 1), (2509, 2509, 1), (2530, 2531, 1),
   (2558, 2558, 1), (2561, 2562, 1), (2620, 2620, 1), (2625, 2626, 1), (2631, 2632, 1),
   (2635, 2637, 1), (2641, 2641, 1), (2672, 2673, 1), (2677, 2677, 1), (2689, 2690, 1),
   (2748, 2748, 1), (2753, 2757, 1), (2759, 2760, 1), (2765, 2765, 1), (2786, 2787, 1),
   (2810, 2815, 1), (2817, 2817, 1), (2876, 2876, 1), (2879, 2879, 1), (2881, 2884, 1),
   (2893, 2893, 1), (2901, 2902, 1), (2914, 2915, 1), (2946, 2946, 1), (3008, 3008, 1),
   (3021, 3021, 1), (3072, 3072, 1), (3076, 3076, 1), (3132, 3132, 1), (3134, 3136, 1),
   (3142, 3144, 1), (3146, 3149, 1), (3157, 3158, 1), (3170, 3171, 1), (3201, 3201, 1),
   (3260, 3260, 1), (3276, 3277, 1), (3298, 3299, 1), (3328, 3329, 1), (3387, 3388, 1),
   (3393, 3396, 1), (3405, 3405, 1), (3426, 3427, 1), (3457, 3457, 1), (3530, 3530, 1),
   (3538, 3540, 1), (3542, 3542, 1), (3633, 3633, 1), (3636, 3642, 1), (3655, 3662, 1),
   (3761, 3761, 1), (3764, 3772, 1), (3784, 3789, 1), (3864, 3865, 1), (3893, 3897, 2),
   (3953, 3954, 1), (3956, 3956, 1), (3962, 3966, 1), (3968, 3968, 1), (3970, 3972, 1),
   (3974, 3975, 1), (3981, 3986, 1), (3988, 3991, 1), (3993, 3996, 1), (3998, 4001, 1),
   (4003, 4006, 1), (4008, 4011, 1), (4013, 4024, 1), (4026, 4028, 1), (4038, 4038, 1),
   (4141, 4144, 1), (4146, 4151, 1), (4153, 4154, 1), (4157, 4158, 1), (4184, 4185, 1),
   (4190, 4192, 1), (4209, 4212, 1), (4226, 4226, 1), (4229, 4230, 1), (4237, 4237, 1),
   (4253, 4253, 1), (4957, 4959, 1), (5906, 5908, 1), (5938, 5939, 1), (5970, 5971, 1),
   (6002, 6003, 1), (6071, 6077, 1), (6086, 6086, 1), (6089, 6099, 1), (6109, 6109, 1),
   (6277, 6278, 1), (6313, 6313, 1), (6432, 6434, 1), (6439, 6440, 1), (6450, 6450, 1),
   (6457, 6459, 1), (6679, 6680, 1), (6683, 6683, 1), (6742, 6742, 1), (6744, 6750, 1),
   (6752, 6752, 1), (6754, 6754, 1), (6757, 6764, 1), (6771, 6780, 1), (6783, 6783, 1),
   (6832, 6845, 1), (6847, 6862, 1), (6912, 6915, 1), (6964, 6964, 1), (6966, 6970, 1),
   (6972, 6972, 1), (6978, 6978, 1), (7019, 7027, 1), (7040, 7041, 1), (7074, 7077, 1),
   (7080, 7081, 1), (7083, 7085, 1), (7142, 7142, 1), (7144, 7145, 1), (7149, 7149, 1),
   (7151, 7153, 1), (7212, 7219, 1), (7222, 7223, 1), (7376, 7378, 1), (7380, 7392, 1),
   (7394, 7400, 1), (7405, 7405, 1), (7412, 7412, 1), (7416, 7417, 1), (7616, 7679, 1),
   (11503, 11505, 1), (11647, 11647, 1), (11744, 11775, 1), (12330, 12333, 1), (12441, 12442, 1),
   (42607, 42607, 1), (42612, 42621, 1), (42654, 42655, 1), (42736, 42737, 1), (43010, 43010, 1),
   (43014, 43014, 1), (43019, 43019, 1), (43045, 43046, 1), (43052, 43052, 1), (43204, 43205, 1),
   (43232, 43249, 1), (43263, 43263, 1), (43302, 43309, 1), (43335, 43345, 1), (43392, 43394, 1),
   (43443, 43443, 1), (43446, 43449, 1), (43452, 43453, 1), (43493, 43493, 1), (43561, 43566, 1),
   (43569, 43570, 1), (43573, 43574, 1), (43587, 43587, 1), (43596, 43596, 1), (43644, 43644, 1),
   (43696, 43696, 1), (43698, 43700, 1), (43703, 43704, 1), (43710, 43711, 1), (43713, 43713, 1),
   (43756, 43757, 1), (43766, 43766, 1), (44005, 44005, 1), (44008, 44008, 1), (44013, 44013, 1),
   (64286, 64286, 1), (65056, 65071, 1), (66045, 66045, 1), (66272, 66272, 1), (66422, 66426, 1),
   (68097, 68099, 1), (68101, 68102, 1), (68108, 68111, 1), (68152, 68154, 1), (68159, 68159, 1),
   (68325, 68326, 1), (68900, 68903, 1), (69291, 69292, 1), (69446, 69456, 1), (69506, 69509, 1),
   (69633, 69633, 1), (69688, 69702, 1), (69744, 69744, 1), (69747, 69748, 1), (69759, 69761, 1),
   (69811, 69814, 1), (69817, 69818, 1), (69826, 69826, 1), (69888, 69890, 1), (69927, 69931, 1),
   (69933, 69940, 1), (70003, 70003, 1), (70016, 70017, 1), (70070, 70078, 1), (70089, 70092, 1),
   (70095, 70095, 1), (70191, 70193, 1), (70196, 70196, 1), (70198, 70199, 1), (70206, 70206, 1),
   (70367, 70367, 1), (70371, 70378, 1), (70400, 70401, 1), (70459, 70460, 1), (70464, 70464, 1),
   (70502, 70508, 1), (70512, 70516, 1), (70712, 70719, 1), (70722, 70724, 1), (70726, 70726, 1),
   (70750, 70750, 1), (70835, 70840, 1), (70842, 70842, 1), (70847, 70848, 1), (70850, 70851, 1),
   (71090, 71093, 1), (71100, 71101, 1), (71103, 71104, 1), (71132, 71133, 1), (71219, 71226, 1),
   (71229, 71229, 1), (71231, 71232, 1), (71339, 71339, 1), (71341, 71341, 1), (71344, 71349, 1),
   (71351, 71351, 1), (71453, 71455, 1), (71458, 71461, 1), (71463, 71467, 1), (71727, 71735, 1),
   (71737, 71738, 1), (71995, 71996, 1), (71998, 71998, 1), (72003, 72003, 1), (72148, 72151, 1),
   (72154, 72155, 1), (72160, 72160, 1), (72193, 72198, 1), (72201, 72202, 1), (72243, 72248, 1),
   (72251, 72254, 1), (72263, 72263, 1), (72273, 72278, 1), (72281, 72283, 1), (72330, 72342, 1),
   (72344, 72345, 1), (72752, 72758, 1), (72760, 72765, 1), (72850, 72871, 1), (72874, 72880, 1),
   (72882, 72883, 1), (72885, 72886, 1), (73009, 73014, 1), (73018, 73018, 1), (73020, 73021, 1),
   (73023, 73029, 1), (73031, 73031, 1), (73104, 73105, 1), (73109, 73109, 1), (73111, 73111, 1),
   (73459, 73460, 1), (92912, 92916, 1), (92976, 92982, 1), (94031, 94031, 1), (94095, 94098, 1),
   (94180, 94180, 1), (113821, 113822, 1), (118528, 118573, 1), (118576, 118598, 1),
   (121344, 121398, 1), (121403, 121452, 1), (121461, 121461, 1), (121476, 121476, 1),
   (121499, 121503, 1), (121505, 121519, 1), (122880, 122886, 1), (122888, 122904, 1),
   (122907, 122913, 1), (122915, 122916, 1), (122918, 122922, 1), (123184, 123190, 1),
   (123566, 123566, 1), (123628, 123631, 1), (125136, 125142, 1), (125252, 125258, 1)]

def arabicNumberRuns : List (Nat × Nat × Nat) :=
  [(68912, 68921, 1)]

def neutralRuns : List (Nat × Nat × Nat) :=
  [(697, 698, 1), (710, 719, 1), (748, 748, 1), (11823, 11823, 1), (42623, 42623, 1),
   (42775, 42783, 1), (42888, 42888, 1)]

end Walkthrough.Hostname
