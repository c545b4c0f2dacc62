/-!
Letters that rules about their neighbours speak of: how letters join, marks that take up space, and
the letters of a few scripts. A run is a first code, a last one and the distance between neighbours.
-/

namespace Walkthrough.Hostname

def joiningBothRuns : List (Nat × Nat × Nat) :=
  [(1568, 1568, 1), (1574, 1578, 2), (1579, 1582, 1), (1587, 1599, 1), (1601, 1607, 1),
   (1609, 1610, 1), (1646, 1647, 1), (1657, 1671, 1), (1690, 1727, 1), (1729, 1730, 1),
   (1740, 1744, 2), (1745, 1745, 1), (1786, 1788, 1), (1791, 1791, 1), (1810, 1812, 1),
   (1818, 1821, 1), (1823, 1831, 1), (1833, 1837, 2), (1838, 1838, 1), (1870, 1880, 1),
   (1884, 1898, 1), (1901, 1904, 1), (1906, 1906, 1), (1909, 1911, 1), (1914, 1919, 1),
   (1994, 2026, 1), (2113, 2117, 1), (2120, 2120, 1), (2122, 2131, 1), (2133, 2133, 1),
   (2144, 2144, 1), (2146, 2149, 1), (2152, 2152, 1), (2182, 2182, 1), (2185, 2189, 1),
   (2208, 2217, 1), (2223, 2224, 1), (2227, 2232, 1), (2234, 2248, 1), (6176, 6264, 1),
   (6279, 6312, 1), (6314, 6314, 1), (43072, 43121, 1), (68288, 68292, 1), (68307, 68310, 1),
   (68312, 68316, 1), (68318, 68320, 1), (68480, 68480, 1), (68482, 68482, 1), (68486, 68488, 1),
   (68490, 68491, 1), (68493, 68493, 1), (68496, 68496, 1), (68865, 68897, 1), (68899, 68899, 1),
   (69424, 69426, 1), (69428, 69444, 1), (69488, 69491, 1), (69494, 69505, 1), (69552, 69552, 1),
   (69554, 69555, 1), (69560, 69560, 1), (69563, 69564, 1), (69566, 69567, 1), (69569, 69569, 1),
   (69572, 69572, 1), (125218, 125251, 1)]

def joiningFormerRuns : List (Nat × Nat × Nat) :=
  [(1570, 1573, 1), (1575, 1575, 1), (1577, 1577, 1), (1583, 1586, 1), (1608, 1608, 1),
   (1649, 1651, 1), (1672, 1689, 1), (1728, 1728, 1), (1731, 1739, 1), (1741, 1741, 1),
   (1743, 1743, 1), (1746, 1747, 1), (1749, 1749, 1), (1774, 1775, 1), (1808, 1808, 1),
   (1813, 1817, 1), (1822, 1822, 1), (1832, 1836, 2), (1839, 1839, 1), (1869, 1869, 1),
   (1881, 1883, 1), (1899, 1900, 1), (1905, 1905, 1), (1907, 1908, 1), (1912, 1913, 1),
   (2112, 2112, 1), (2118, 2119, 1), (2121, 2121, 1), (2132, 2132, 1), (2134, 2136, 1),
   (2151, 2151, 1), (2153, 2154, 1), (2160, 2178, 1), (2190, 2190, 1), (2218, 2220, 1),
   (2222, 2222, 1), (2225, 2226, 1), (2233, 2233, 1), (68293, 68297, 2), (68298, 68298, 1),
   (68302, 68306, 1), (68317, 68317, 1), (68321, 68321, 1), (68324, 68324, 1), (68481, 68481, 1),
   (68483, 68485, 1), (68489, 68489, 1), (68492, 68492, 1), (68494, 68495, 1), (68497, 68497, 1),
   (68898, 68898, 1), (69427, 69427, 1), (69492, 69493, 1), (69556, 69558, 1), (69561, 69562, 1),
   (69565, 69565, 1), (69570, 69571, 1)]

def joiningLatterRuns : List (Nat × Nat × Nat) :=
  [(43122, 43122, 1), (68301, 68301, 1), (68311, 68311, 1), (68864, 68864, 1)]

def spacingMarkRuns : List (Nat × Nat × Nat) :=
  [(2307, 2307, 1), (2363, 2363, 1), (2366, 2368, 1), (2377, 2380, 1), (2382, 2383, 1),
   (2434, 2435, 1), (2494, 2496, 1), (2503, 2504, 1), (2507, 2508, 1), (2519, 2519, 1),
   (2563, 2563, 1), (2622, 2624, 1), (2691, 2691, 1), (2750, 2752, 1), (2761, 2761, 1),
   (2763, 2764, 1), (2818, 2819, 1), (2878, 2878, 1), (2880, 2880, 1), (2887, 2888, 1),
   (2891, 2892, 1), (2903, 2903, 1), (3006, 3007, 1), (3009, 3010, 1), (3014, 3016, 1),
   (3018, 3020, 1), (3031, 3031, 1), (3073, 3075, 1), (3137, 3140, 1), (3202, 3203, 1),
   (3262, 3262, 1), (3264, 3268, 1), (3271, 3272, 1), (3274, 3275, 1), (3285, 3286, 1),
   (3330, 3331, 1), (3390, 3392, 1), (3398, 3400, 1), (3402, 3404, 1), (3415, 3415, 1),
   (3458, 3459, 1), (3535, 3537, 1), (3544, 3551, 1), (3570, 3571, 1), (3902, 3903, 1),
   (3967, 3967, 1), (4139, 4140, 1), (4145, 4145, 1), (4152, 4152, 1), (4155, 4156, 1),
   (4182, 4183, 1), (4194, 4196, 1), (4199, 4205, 1), (4227, 4228, 1), (4231, 4236, 1),
   (4239, 4239, 1), (4250, 4252, 1), (5909, 5909, 1), (5940, 5940, 1), (6070, 6070, 1),
   (6078, 6085, 1), (6087, 6088, 1), (6435, 6438, 1), (6441, 6443, 1), (6448, 6449, 1),
   (6451, 6456, 1), (6681, 6682, 1), (6741, 6741, 1), (6743, 6743, 1), (6753, 6753, 1),
   (6755, 6756, 1), (6765, 6770, 1), (6916, 6916, 1), (6965, 6965, 1), (6971, 6971, 1),
   (6973, 6977, 1), (6979, 6980, 1), (7042, 7042, 1), (7073, 7073, 1), (7078, 7079, 1),
   (7082, 7082, 1), (7143, 7143, 1), (7146, 7148, 1), (7150, 7150, 1), (7154, 7155, 1),
   (7204, 7211, 1), (7220, 7221, 1), (7393, 7393, 1), (7415, 7415, 1), (43043, 43044, 1),
   (43047, 43047, 1), (43136, 43137, 1), (43188, 43203, 1), (43346, 43347, 1), (43395, 43395, 1),
   (43444, 43445, 1), (43450, 43451, 1), (43454, 43456, 1), (43567, 43568, 1), (43571, 43572, 1),
   (43597, 43597, 1), (43643, 43643, 1), (43645, 43645, 1), (43755, 43755, 1), (43758, 43759, 1),
   (43765, 43765, 1), (44003, 44004, 1), (44006, 44007, 1), (44009, 44010, 1), (44012, 44012, 1),
   (69632, 69632, 1), (69634, 69634, 1), (69762, 69762, 1), (69808, 69810, 1), (69815, 69816, 1),
   (69932, 69932, 1), (69957, 69958, 1), (70018, 70018, 1), (70067, 70069, 1), (70079, 70080, 1),
   (70094, 70094, 1), (70188, 70190, 1), (70194, 70195, 1), (70197, 70197, 1), (70368, 70370, 1),
   (70402, 70403, 1), (70462, 70463, 1), (70465, 70468, 1), (70471, 70472, 1), (70475, 70477, 1),
   (70487, 70487, 1), (70498, 70499, 1), (70709, 70711, 1), (70720, 70721, 1), (70725, 70725, 1),
   (70832, 70834, 1), (70841, 70841, 1), (70843, 70846, 1), (70849, 70849, 1), (71087, 71089, 1),
   (71096, 71099, 1), (71102, 71102, 1), (71216, 71218, 1), (71227, 71228, 1), (71230, 71230, 1),
   (71340, 71340, 1), (71342, 71343, 1), (71350, 71350, 1), (71456, 71457, 1), (71462, 71462, 1),
   (71724, 71726, 1), (71736, 71736, 1), (71984, 71989, 1), (71991, 71992, 1), (71997, 71997, 1),
   (72000, 72000, 1), (72002, 72002, 1), (72145, 72147, 1), (72156, 72159, 1), (72164, 72164, 1),
   (72249, 72249, 1), (72279, 72280, 1), (72343, 72343, 1), (72751, 72751, 1), (72766, 72766, 1),
   (72873, 72873, 1), (72881, 72881, 1), (72884, 72884, 1), (73098, 73102, 1), (73107, 73108, 1),
   (73110, 73110, 1), (73461, 73462, 1), (94033, 94087, 1), (94192, 94193, 1)]

def greekRuns : List (Nat × Nat × Nat) :=
  [(881, 887, 2), (891, 893, 1), (912, 912, 1), (940, 974, 1), (983, 993, 2), (1011, 1011, 1),
   (1016, 1016, 1), (1019, 1020, 1), (7462, 7466, 1), (7936, 7943, 1), (7952, 7957, 1),
   (7968, 7975, 1), (7984, 7991, 1), (8000, 8005, 1), (8016, 8023, 1), (8032, 8039, 1),
   (8048, 8060, 2), (8112, 8113, 1), (8118, 8118, 1), (8134, 8134, 1), (8144, 8146, 1),
   (8150, 8151, 1), (8160, 8162, 1), (8164, 8167, 1), (8182, 8182, 1), (43877, 43877, 1)]

def hebrewRuns : List (Nat × Nat × Nat) :=
  [(1425, 1469, 1), (1471, 1471, 1), (1473, 1474, 1), (1476, 1477, 1), (1479, 1479, 1),
   (1488, 1514, 1), (1519, 1524, 1), (64286, 64286, 1)]

def kanaRuns : List (Nat × Nat × Nat) :=
  [(12353, 12438, 1), (12445, 12446, 1), (12449, 12538, 1), (12541, 12542, 1), (12784, 12799, 1),
   (110576, 110579, 1), (110581, 110587, 1), (110589, 110590, 1), (110592, 110882, 1),
   (110928, 110930, 1), (110948, 110951, 1)]

def hanRuns : List (Nat × Nat × Nat) :=
  [(12293, 12293, 1), (12295, 12295, 1), (13312, 19903, 1), (19968, 40959, 1), (64014, 64015, 1),
   (64017, 64017, 1), (64019, 64020, 1), (64031, 64035, 2), (64036, 64036, 1), (64039, 64041, 1),
   (94179, 94179, 1), (94192, 94193, 1), (131072, 173791, 1), (173824, 177976, 1),
   (177984, 178205, 1), (178208, 183969, 1), (183984, 191456, 1), (196608, 201546, 1)]

end Walkthrough.Hostname
