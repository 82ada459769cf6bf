import Annotations.Text.Ranges

/-!
The characters of which words are made in the notation of type definitions.
-/
namespace Annotations.Text

/-- The characters of the Unicode property XID_Start, and all code points that have no character yet: most
of them become letters, and words made of those are words already. -/
def wordStartRanges : List (Nat × Nat) := [
  (65, 90), (97, 122), (170, 170), (181, 181), (186, 186), (192, 214), (216, 246), (248, 705),
  (710, 721), (736, 740), (748, 748), (750, 750), (880, 884), (886, 889), (891, 893),
  (895, 899), (902, 902), (904, 1013), (1015, 1153), (1162, 1369), (1376, 1416), (1419, 1420),
  (1424, 1424), (1480, 1522), (1525, 1535), (1568, 1610), (1646, 1647), (1649, 1747),
  (1749, 1749), (1765, 1766), (1774, 1775), (1786, 1788), (1791, 1791), (1806, 1806),
  (1808, 1808), (1810, 1839), (1867, 1957), (1969, 1983), (1994, 2026), (2036, 2037),
  (2042, 2044), (2048, 2069), (2074, 2074), (2084, 2084), (2088, 2088), (2094, 2095),
  (2111, 2136), (2140, 2141), (2143, 2183), (2185, 2191), (2194, 2198), (2208, 2249),
  (2308, 2361), (2365, 2365), (2384, 2384), (2392, 2401), (2417, 2432), (2436, 2491),
  (2493, 2493), (2501, 2502), (2505, 2506), (2510, 2518), (2520, 2529), (2532, 2533),
  (2544, 2545), (2556, 2556), (2559, 2560), (2564, 2619), (2621, 2621), (2627, 2630),
  (2633, 2634), (2638, 2640), (2642, 2661), (2674, 2676), (2679, 2688), (2692, 2747),
  (2749, 2749), (2758, 2758), (2762, 2762), (2766, 2785), (2788, 2789), (2802, 2809),
  (2816, 2816), (2820, 2875), (2877, 2877), (2885, 2886), (2889, 2890), (2894, 2900),
  (2904, 2913), (2916, 2917), (2929, 2929), (2936, 2945), (2947, 3005), (3011, 3013),
  (3017, 3017), (3022, 3030), (3032, 3045), (3067, 3071), (3077, 3131), (3133, 3133),
  (3141, 3141), (3145, 3145), (3150, 3156), (3159, 3169), (3172, 3173), (3184, 3190),
  (3200, 3200), (3205, 3259), (3261, 3261), (3269, 3269), (3273, 3273), (3278, 3284),
  (3287, 3297), (3300, 3301), (3312, 3314), (3316, 3327), (3332, 3386), (3389, 3389),
  (3397, 3397), (3401, 3401), (3406, 3406), (3408, 3414), (3423, 3425), (3428, 3429),
  (3450, 3456), (3460, 3529), (3531, 3534), (3541, 3541), (3543, 3543), (3552, 3557),
  (3568, 3569), (3573, 3632), (3634, 3634), (3643, 3646), (3648, 3654), (3676, 3760),
  (3762, 3762), (3773, 3783), (3791, 3791), (3802, 3840), (3904, 3952), (3976, 3980),
  (3992, 3992), (4029, 4029), (4045, 4045), (4059, 4138), (4159, 4159), (4176, 4181),
  (4186, 4189), (4193, 4193), (4197, 4198), (4206, 4208), (4213, 4225), (4238, 4238),
  (4256, 4346), (4348, 4956), (4989, 5007), (5018, 5119), (5121, 5740), (5743, 5759),
  (5761, 5786), (5789, 5866), (5870, 5905), (5910, 5937), (5943, 5969), (5972, 6001),
  (6004, 6067), (6103, 6103), (6108, 6108), (6110, 6111), (6122, 6127), (6138, 6143),
  (6170, 6312), (6314, 6431), (6444, 6447), (6460, 6463), (6465, 6467), (6480, 6607),
  (6619, 6621), (6656, 6678), (6684, 6685), (6688, 6740), (6751, 6751), (6781, 6782),
  (6794, 6799), (6810, 6815), (6823, 6823), (6830, 6831), (6878, 6879), (6892, 6911),
  (6917, 6963), (6981, 6989), (7043, 7072), (7086, 7087), (7098, 7141), (7156, 7163),
  (7168, 7203), (7224, 7226), (7242, 7247), (7258, 7293), (7296, 7359), (7368, 7375),
  (7401, 7404), (7406, 7411), (7413, 7414), (7418, 7615), (7680, 8124), (8126, 8126),
  (8130, 8140), (8144, 8156), (8160, 8172), (8176, 8188), (8191, 8191), (8293, 8293),
  (8305, 8307), (8319, 8319), (8335, 8351), (8386, 8399), (8433, 8447), (8450, 8450),
  (8455, 8455), (8458, 8467), (8469, 8469), (8472, 8477), (8484, 8484), (8486, 8486),
  (8488, 8488), (8490, 8505), (8508, 8511), (8517, 8521), (8526, 8526), (8544, 8584),
  (8588, 8591), (9258, 9279), (9291, 9311), (11124, 11125), (11264, 11492), (11499, 11502),
  (11506, 11512), (11520, 11631), (11633, 11646), (11648, 11743), (11870, 11903),
  (11930, 11930), (12020, 12031), (12246, 12271), (12293, 12295), (12321, 12329),
  (12337, 12341), (12344, 12348), (12352, 12440), (12445, 12447), (12449, 12538),
  (12540, 12687), (12704, 12735), (12774, 12782), (12784, 12799), (12831, 12831),
  (13312, 19903), (19968, 42127), (42183, 42237), (42240, 42508), (42512, 42527),
  (42538, 42606), (42623, 42653), (42656, 42735), (42744, 42751), (42775, 42783),
  (42786, 42888), (42891, 43009), (43011, 43013), (43015, 43018), (43020, 43042),
  (43053, 43055), (43066, 43123), (43128, 43135), (43138, 43187), (43206, 43213),
  (43226, 43231), (43250, 43255), (43259, 43259), (43261, 43262), (43274, 43301),
  (43312, 43334), (43348, 43358), (43360, 43391), (43396, 43442), (43470, 43471),
  (43482, 43485), (43488, 43492), (43494, 43503), (43514, 43560), (43575, 43586),
  (43588, 43595), (43598, 43599), (43610, 43611), (43616, 43638), (43642, 43642),
  (43646, 43695), (43697, 43697), (43701, 43702), (43705, 43709), (43712, 43712),
  (43714, 43741), (43744, 43754), (43762, 43764), (43767, 43866), (43868, 43881),
  (43884, 44002), (44014, 44015), (44026, 55295), (63744, 64285), (64287, 64296),
  (64298, 64433), (64467, 64605), (64612, 64829), (64848, 64911), (64914, 64967),
  (65008, 65017), (65050, 65055), (65107, 65107), (65127, 65127), (65132, 65135),
  (65137, 65137), (65139, 65139), (65141, 65141), (65143, 65143), (65145, 65145),
  (65147, 65147), (65149, 65149), (65151, 65278), (65280, 65280), (65313, 65338),
  (65345, 65370), (65382, 65437), (65440, 65503), (65511, 65511), (65519, 65528),
  (65536, 65791), (65795, 65798), (65844, 65846), (65856, 65908), (65935, 65935),
  (65949, 65951), (65953, 65999), (66046, 66271), (66300, 66335), (66340, 66421),
  (66427, 66462), (66464, 66511), (66513, 66719), (66730, 66926), (66928, 67670),
  (67680, 67702), (67712, 67750), (67760, 67834), (67840, 67861), (67868, 67870),
  (67872, 67902), (67904, 68027), (68030, 68031), (68048, 68049), (68096, 68096),
  (68100, 68100), (68103, 68107), (68112, 68151), (68155, 68158), (68169, 68175),
  (68185, 68220), (68224, 68252), (68256, 68295), (68297, 68324), (68327, 68330),
  (68343, 68408), (68416, 68439), (68448, 68471), (68480, 68504), (68509, 68520),
  (68528, 68857), (68864, 68899), (68904, 68911), (68922, 68927), (68938, 68968),
  (68975, 69005), (69008, 69215), (69247, 69290), (69294, 69327), (69337, 69369),
  (69376, 69404), (69415, 69445), (69466, 69505), (69514, 69572), (69580, 69631),
  (69635, 69687), (69710, 69713), (69745, 69746), (69749, 69758), (69763, 69807),
  (69827, 69836), (69838, 69871), (69882, 69887), (69891, 69926), (69941, 69941),
  (69956, 69956), (69959, 70002), (70006, 70015), (70019, 70066), (70081, 70084),
  (70106, 70106), (70108, 70108), (70112, 70112), (70133, 70187), (70207, 70208),
  (70210, 70312), (70314, 70366), (70379, 70383), (70394, 70399), (70404, 70458),
  (70461, 70461), (70469, 70470), (70473, 70474), (70478, 70486), (70488, 70497),
  (70500, 70501), (70509, 70511), (70517, 70583), (70593, 70593), (70595, 70596),
  (70598, 70598), (70603, 70603), (70609, 70609), (70611, 70611), (70614, 70614),
  (70617, 70624), (70627, 70708), (70727, 70730), (70748, 70748), (70751, 70831),
  (70852, 70853), (70855, 70863), (70874, 71086), (71094, 71095), (71128, 71131),
  (71134, 71215), (71236, 71247), (71258, 71263), (71277, 71338), (71352, 71352),
  (71354, 71359), (71370, 71375), (71396, 71452), (71468, 71471), (71488, 71723),
  (71740, 71903), (71923, 71983), (71990, 71990), (71993, 71994), (71999, 71999),
  (72001, 72001), (72007, 72015), (72026, 72144), (72152, 72153), (72161, 72161),
  (72163, 72163), (72165, 72192), (72203, 72242), (72250, 72250), (72264, 72272),
  (72284, 72329), (72349, 72349), (72355, 72447), (72458, 72543), (72552, 72672),
  (72674, 72687), (72698, 72750), (72759, 72759), (72768, 72768), (72774, 72783),
  (72813, 72815), (72818, 72849), (72872, 72872), (72887, 73008), (73015, 73017),
  (73019, 73019), (73022, 73022), (73030, 73030), (73032, 73039), (73050, 73097),
  (73103, 73103), (73106, 73106), (73112, 73119), (73130, 73183), (73194, 73458),
  (73465, 73471), (73474, 73474), (73476, 73523), (73531, 73533), (73563, 73663),
  (73714, 73726), (73728, 74863), (74869, 77808), (77811, 78895), (78913, 78918),
  (78934, 90397), (90426, 92767), (92778, 92781), (92784, 92863), (92874, 92911),
  (92918, 92975), (92992, 92995), (92998, 93007), (93018, 93018), (93026, 93548),
  (93562, 93823), (93851, 94030), (94032, 94032), (94088, 94094), (94099, 94177),
  (94179, 94179), (94181, 94191), (94194, 113819), (113828, 117759), (118013, 118015),
  (118452, 118457), (118481, 118495), (118513, 118527), (118574, 118575), (118599, 118607),
  (118724, 118783), (119030, 119039), (119079, 119080), (119275, 119295), (119366, 119487),
  (119508, 119519), (119540, 119551), (119639, 119647), (119673, 120512), (120514, 120538),
  (120540, 120570), (120572, 120596), (120598, 120628), (120630, 120654), (120656, 120686),
  (120688, 120712), (120714, 120744), (120746, 120770), (120772, 120781), (121484, 121498),
  (121504, 121504), (121520, 122879), (122887, 122887), (122905, 122906), (122914, 122914),
  (122917, 122917), (122923, 123022), (123024, 123183), (123191, 123199), (123210, 123214),
  (123216, 123565), (123567, 123627), (123642, 123646), (123648, 124139), (124154, 124397),
  (124400, 124400), (124411, 124414), (124416, 124642), (124644, 124645), (124647, 124653),
  (124656, 124660), (124662, 125126), (125143, 125251), (125259, 125263), (125274, 125277),
  (125280, 126064), (126133, 126208), (126270, 126703), (126706, 126975), (127020, 127023),
  (127124, 127135), (127151, 127152), (127168, 127168), (127184, 127184), (127222, 127231),
  (127406, 127461), (127491, 127503), (127548, 127551), (127561, 127567), (127570, 127583),
  (127590, 127743), (128729, 128731), (128749, 128751), (128765, 128767), (128986, 128991),
  (129004, 129007), (129009, 129023), (129036, 129039), (129096, 129103), (129114, 129119),
  (129160, 129167), (129198, 129199), (129212, 129215), (129218, 129231), (129241, 129279),
  (129624, 129631), (129646, 129647), (129661, 129663), (129675, 129677), (129735, 129735),
  (129737, 129740), (129757, 129758), (129771, 129774), (129785, 129791), (129939, 129939),
  (130043, 131069), (131072, 196605), (196608, 262141), (262144, 327677), (327680, 393213),
  (393216, 458749), (458752, 524285), (524288, 589821), (589824, 655357), (655360, 720893),
  (720896, 786429), (786432, 851965), (851968, 917501), (917504, 917504), (917506, 917535),
  (917632, 917759), (918000, 983037)]

/-- The other characters of the Unicode property XID_Continue. -/
def wordRestRanges : List (Nat × Nat) := [
  (48, 57), (95, 95), (183, 183), (768, 879), (903, 903), (1155, 1159), (1425, 1469),
  (1471, 1471), (1473, 1474), (1476, 1477), (1479, 1479), (1552, 1562), (1611, 1641),
  (1648, 1648), (1750, 1756), (1759, 1764), (1767, 1768), (1770, 1773), (1776, 1785),
  (1809, 1809), (1840, 1866), (1958, 1968), (1984, 1993), (2027, 2035), (2045, 2045),
  (2070, 2073), (2075, 2083), (2085, 2087), (2089, 2093), (2137, 2139), (2199, 2207),
  (2250, 2273), (2275, 2307), (2362, 2364), (2366, 2383), (2385, 2391), (2402, 2403),
  (2406, 2415), (2433, 2435), (2492, 2492), (2494, 2500), (2503, 2504), (2507, 2509),
  (2519, 2519), (2530, 2531), (2534, 2543), (2558, 2558), (2561, 2563), (2620, 2620),
  (2622, 2626), (2631, 2632), (2635, 2637), (2641, 2641), (2662, 2673), (2677, 2677),
  (2689, 2691), (2748, 2748), (2750, 2757), (2759, 2761), (2763, 2765), (2786, 2787),
  (2790, 2799), (2810, 2815), (2817, 2819), (2876, 2876), (2878, 2884), (2887, 2888),
  (2891, 2893), (2901, 2903), (2914, 2915), (2918, 2927), (2946, 2946), (3006, 3010),
  (3014, 3016), (3018, 3021), (3031, 3031), (3046, 3055), (3072, 3076), (3132, 3132),
  (3134, 3140), (3142, 3144), (3146, 3149), (3157, 3158), (3170, 3171), (3174, 3183),
  (3201, 3203), (3260, 3260), (3262, 3268), (3270, 3272), (3274, 3277), (3285, 3286),
  (3298, 3299), (3302, 3311), (3315, 3315), (3328, 3331), (3387, 3388), (3390, 3396),
  (3398, 3400), (3402, 3405), (3415, 3415), (3426, 3427), (3430, 3439), (3457, 3459),
  (3530, 3530), (3535, 3540), (3542, 3542), (3544, 3551), (3558, 3567), (3570, 3571),
  (3633, 3633), (3635, 3642), (3655, 3662), (3664, 3673), (3761, 3761), (3763, 3772),
  (3784, 3790), (3792, 3801), (3864, 3865), (3872, 3881), (3893, 3893), (3895, 3895),
  (3897, 3897), (3902, 3903), (3953, 3972), (3974, 3975), (3981, 3991), (3993, 4028),
  (4038, 4038), (4139, 4158), (4160, 4169), (4182, 4185), (4190, 4192), (4194, 4196),
  (4199, 4205), (4209, 4212), (4226, 4237), (4239, 4253), (4957, 4959), (4969, 4977),
  (5906, 5909), (5938, 5940), (5970, 5971), (6002, 6003), (6068, 6099), (6109, 6109),
  (6112, 6121), (6155, 6157), (6159, 6169), (6313, 6313), (6432, 6443), (6448, 6459),
  (6470, 6479), (6608, 6618), (6679, 6683), (6741, 6750), (6752, 6780), (6783, 6793),
  (6800, 6809), (6832, 6845), (6847, 6877), (6880, 6891), (6912, 6916), (6964, 6980),
  (6992, 7001), (7019, 7027), (7040, 7042), (7073, 7085), (7088, 7097), (7142, 7155),
  (7204, 7223), (7232, 7241), (7248, 7257), (7376, 7378), (7380, 7400), (7405, 7405),
  (7412, 7412), (7415, 7417), (7616, 7679), (8204, 8205), (8255, 8256), (8276, 8276),
  (8400, 8412), (8417, 8417), (8421, 8432), (11503, 11505), (11647, 11647), (11744, 11775),
  (12330, 12335), (12441, 12442), (12539, 12539), (42528, 42537), (42607, 42607),
  (42612, 42621), (42654, 42655), (42736, 42737), (43010, 43010), (43014, 43014),
  (43019, 43019), (43043, 43047), (43052, 43052), (43136, 43137), (43188, 43205),
  (43216, 43225), (43232, 43249), (43263, 43273), (43302, 43309), (43335, 43347),
  (43392, 43395), (43443, 43456), (43472, 43481), (43493, 43493), (43504, 43513),
  (43561, 43574), (43587, 43587), (43596, 43597), (43600, 43609), (43643, 43645),
  (43696, 43696), (43698, 43700), (43703, 43704), (43710, 43711), (43713, 43713),
  (43755, 43759), (43765, 43766), (44003, 44010), (44012, 44013), (44016, 44025),
  (64286, 64286), (65024, 65039), (65056, 65071), (65075, 65076), (65101, 65103),
  (65296, 65305), (65343, 65343), (65381, 65381), (65438, 65439), (66045, 66045),
  (66272, 66272), (66422, 66426), (66720, 66729), (68097, 68099), (68101, 68102),
  (68108, 68111), (68152, 68154), (68159, 68159), (68325, 68326), (68900, 68903),
  (68912, 68921), (68928, 68937), (68969, 68973), (69291, 69292), (69370, 69375),
  (69446, 69456), (69506, 69509), (69632, 69634), (69688, 69702), (69734, 69744),
  (69747, 69748), (69759, 69762), (69808, 69818), (69826, 69826), (69872, 69881),
  (69888, 69890), (69927, 69940), (69942, 69951), (69957, 69958), (70003, 70003),
  (70016, 70018), (70067, 70080), (70089, 70092), (70094, 70105), (70188, 70199),
  (70206, 70206), (70209, 70209), (70367, 70378), (70384, 70393), (70400, 70403),
  (70459, 70460), (70462, 70468), (70471, 70472), (70475, 70477), (70487, 70487),
  (70498, 70499), (70502, 70508), (70512, 70516), (70584, 70592), (70594, 70594),
  (70597, 70597), (70599, 70602), (70604, 70608), (70610, 70610), (70625, 70626),
  (70709, 70726), (70736, 70745), (70750, 70750), (70832, 70851), (70864, 70873),
  (71087, 71093), (71096, 71104), (71132, 71133), (71216, 71232), (71248, 71257),
  (71339, 71351), (71360, 71369), (71376, 71395), (71453, 71467), (71472, 71481),
  (71724, 71738), (71904, 71913), (71984, 71989), (71991, 71992), (71995, 71998),
  (72000, 72000), (72002, 72003), (72016, 72025), (72145, 72151), (72154, 72160),
  (72164, 72164), (72193, 72202), (72243, 72249), (72251, 72254), (72263, 72263),
  (72273, 72283), (72330, 72345), (72544, 72551), (72688, 72697), (72751, 72758),
  (72760, 72767), (72784, 72793), (72850, 72871), (72873, 72886), (73009, 73014),
  (73018, 73018), (73020, 73021), (73023, 73029), (73031, 73031), (73040, 73049),
  (73098, 73102), (73104, 73105), (73107, 73111), (73120, 73129), (73184, 73193),
  (73459, 73462), (73472, 73473), (73475, 73475), (73524, 73530), (73534, 73538),
  (73552, 73562), (78912, 78912), (78919, 78933), (90398, 90425), (92768, 92777),
  (92864, 92873), (92912, 92916), (92976, 92982), (93008, 93017), (93552, 93561),
  (94031, 94031), (94033, 94087), (94095, 94098), (94180, 94180), (94192, 94193),
  (113821, 113822), (118000, 118009), (118528, 118573), (118576, 118598), (119141, 119145),
  (119149, 119154), (119163, 119170), (119173, 119179), (119210, 119213), (119362, 119364),
  (120782, 120831), (121344, 121398), (121403, 121452), (121461, 121461), (121476, 121476),
  (121499, 121503), (121505, 121519), (122880, 122886), (122888, 122904), (122907, 122913),
  (122915, 122916), (122918, 122922), (123023, 123023), (123184, 123190), (123200, 123209),
  (123566, 123566), (123628, 123641), (124140, 124153), (124398, 124399), (124401, 124410),
  (124643, 124643), (124646, 124646), (124654, 124655), (124661, 124661), (125136, 125142),
  (125252, 125258), (125264, 125273), (130032, 130041), (917760, 917999)]

/-- Whether a word may start with a character. -/
def startsWord (c : Char) : Bool := c == '_' || inRanges wordStartRanges c

/-- Whether a character may stand in a word behind its start. -/
def isWordChar (c : Char) : Bool := inRanges wordStartRanges c || inRanges wordRestRanges c

end Annotations.Text
