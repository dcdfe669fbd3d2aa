import TableSearch.CodePoint.Set

/-!
# Domain name mapping

How the characters of an international domain name are mapped: those that stand for ASCII
characters, those that are dropped, and the classes that the rule on writing directions names.
-/
namespace TableSearch.Url

/-- Runs of characters that stand for one ASCII character each: `lo..hi>first`. -/
def singleMappings : String :=
  "A0>20 AA>61 B2..B3>32 B9>31 BA>6F 17F>73 2B0>68 2B2>6A 2B3>72 2B7>77 2B8>79 2E1>6C 2E2>73
  2E3>78 37E>3B 1D2C>61 1D2E>62 1D30..1D31>64 1D33..1D3A>67 1D3C>6F 1D3E>70 1D3F>72
  1D40..1D41>74 1D42>77 1D43>61 1D47>62 1D48..1D49>64 1D4D>67 1D4F>6B 1D50>6D 1D52>6F 1D56>70
  1D57..1D58>74 1D5B>76 1D62>69 1D63>72 1D64..1D65>75 1D9C>63 1DA0>66 1DBB>7A 1FEF>60 2000>20
  2001>20 2002>20 2003>20 2004>20 2005>20 2006>20 2007>20 2008>20 2009>20 200A>20 2024>2E
  202F>20 205F>20 2070>30 2071>69 2074..2079>34 207A>2B 207C>3D 207D..207E>28 207F>6E
  2080..2089>30 208A>2B 208C>3D 208D..208E>28 2090>61 2091>65 2092>6F 2093>78 2095>68
  2096..2099>6B 209A>70 209B..209C>73 2102>63 210A..210B>67 210C>68 210D>68 210E>68 2110>69
  2111>69 2112>6C 2113>6C 2115>6E 2119..211B>70 211C>72 211D>72 2124>7A 2128>7A 212A>6B
  212C..212D>62 212F>65 2130..2131>65 2133>6D 2134>6F 2139>69 2145>64 2146..2147>64
  2148..2149>69 2160>69 2164>76 2169>78 216C>6C 216D..216E>63 216F>6D 2170>69 2174>76 2179>78
  217C>6C 217D..217E>63 217F>6D 2460..2468>31 24B6..24CF>61 24D0..24E9>61 24EA>30 2C7C>6A
  2C7D>76 3000>20 A7F2>63 A7F3>66 A7F4>71 FB29>2B FE10>2C FE13..FE14>3A FE15>21 FE16>3F FE33>5F
  FE34>5F FE35..FE36>28 FE37>7B FE38>7D FE47>5B FE48>5D FE4D>5F FE4E>5F FE4F>5F FE50>2C FE52>2E
  FE54>3B FE55>3A FE56>3F FE57>21 FE59..FE5A>28 FE5B>7B FE5C>7D FE5F>23 FE60>26 FE61..FE62>2A
  FE63>2D FE64>3C FE65>3E FE66>3D FE68>5C FE69..FE6A>24 FE6B>40 FF01..FF20>21 FF21..FF3A>61
  FF3B..FF5E>5B 107A5>71 1D400..1D419>61 1D41A..1D433>61 1D434..1D44D>61 1D44E..1D454>61
  1D456..1D467>69 1D468..1D481>61 1D482..1D49B>61 1D49C>61 1D49E..1D49F>63 1D4A2>67
  1D4A5..1D4A6>6A 1D4A9..1D4AC>6E 1D4AE..1D4B5>73 1D4B6..1D4B9>61 1D4BB>66 1D4BD..1D4C3>68
  1D4C5..1D4CF>70 1D4D0..1D4E9>61 1D4EA..1D503>61 1D504..1D505>61 1D507..1D50A>64
  1D50D..1D514>6A 1D516..1D51C>73 1D51E..1D537>61 1D538..1D539>61 1D53B..1D53E>64
  1D540..1D544>69 1D546>6F 1D54A..1D550>73 1D552..1D56B>61 1D56C..1D585>61 1D586..1D59F>61
  1D5A0..1D5B9>61 1D5BA..1D5D3>61 1D5D4..1D5ED>61 1D5EE..1D607>61 1D608..1D621>61
  1D622..1D63B>61 1D63C..1D655>61 1D656..1D66F>61 1D670..1D689>61 1D68A..1D6A3>61
  1D7CE..1D7D7>30 1D7D8..1D7E1>30 1D7E2..1D7EB>30 1D7EC..1D7F5>30 1D7F6..1D7FF>30 1F12B>63
  1F12C>72 1F130..1F149>61 1FBF0..1FBF9>30"

/-- Characters that stand for several characters, ASCII among them: `code>codes`. -/
def multipleMappings : String :=
  "A8>20,308 AF>20,304 B4>20,301 B8>20,327 BC>31,2044,34 BD>31,2044,32 BE>33,2044,34 130>69,307
  132>69,6A 133>69,6A 13F>6C,B7 140>6C,B7 149>2BC,6E 1C4>64,17E 1C5>64,17E 1C6>64,17E 1C7>6C,6A
  1C8>6C,6A 1C9>6C,6A 1CA>6E,6A 1CB>6E,6A 1CC>6E,6A 1F1>64,7A 1F2>64,7A 1F3>64,7A 2D8>20,306
  2D9>20,307 2DA>20,30A 2DB>20,328 2DC>20,303 2DD>20,30B 37A>20,3B9 384>20,301 385>20,308,301
  1E9A>61,2BE 1FBD>20,313 1FBF>20,313 1FC0>20,342 1FC1>20,308,342 1FCD>20,313,300
  1FCE>20,313,301 1FCF>20,313,342 1FDD>20,314,300 1FDE>20,314,301 1FDF>20,314,342
  1FED>20,308,300 1FEE>20,308,301 1FFD>20,301 1FFE>20,314 2017>20,333 2025>2E,2E 2026>2E,2E,2E
  203C>21,21 203E>20,305 2047>3F,3F 2048>3F,21 2049>21,3F 20A8>72,73 2100>61,2F,63 2101>61,2F,73
  2103>B0,63 2105>63,2F,6F 2106>63,2F,75 2109>B0,66 2116>6E,6F 2120>73,6D 2121>74,65,6C
  2122>74,6D 213B>66,61,78 2150>31,2044,37 2151>31,2044,39 2152>31,2044,31,30 2153>31,2044,33
  2154>32,2044,33 2155>31,2044,35 2156>32,2044,35 2157>33,2044,35 2158>34,2044,35
  2159>31,2044,36 215A>35,2044,36 215B>31,2044,38 215C>33,2044,38 215D>35,2044,38
  215E>37,2044,38 215F>31,2044 2161>69,69 2162>69,69,69 2163>69,76 2165>76,69 2166>76,69,69
  2167>76,69,69,69 2168>69,78 216A>78,69 216B>78,69,69 2171>69,69 2172>69,69,69 2173>69,76
  2175>76,69 2176>76,69,69 2177>76,69,69,69 2178>69,78 217A>78,69 217B>78,69,69 2189>30,2044,33
  2469>31,30 246A>31,31 246B>31,32 246C>31,33 246D>31,34 246E>31,35 246F>31,36 2470>31,37
  2471>31,38 2472>31,39 2473>32,30 2474>28,31,29 2475>28,32,29 2476>28,33,29 2477>28,34,29
  2478>28,35,29 2479>28,36,29 247A>28,37,29 247B>28,38,29 247C>28,39,29 247D>28,31,30,29
  247E>28,31,31,29 247F>28,31,32,29 2480>28,31,33,29 2481>28,31,34,29 2482>28,31,35,29
  2483>28,31,36,29 2484>28,31,37,29 2485>28,31,38,29 2486>28,31,39,29 2487>28,32,30,29
  2488>31,2E 2489>32,2E 248A>33,2E 248B>34,2E 248C>35,2E 248D>36,2E 248E>37,2E 248F>38,2E
  2490>39,2E 2491>31,30,2E 2492>31,31,2E 2493>31,32,2E 2494>31,33,2E 2495>31,34,2E 2496>31,35,2E
  2497>31,36,2E 2498>31,37,2E 2499>31,38,2E 249A>31,39,2E 249B>32,30,2E 249C>28,61,29
  249D>28,62,29 249E>28,63,29 249F>28,64,29 24A0>28,65,29 24A1>28,66,29 24A2>28,67,29
  24A3>28,68,29 24A4>28,69,29 24A5>28,6A,29 24A6>28,6B,29 24A7>28,6C,29 24A8>28,6D,29
  24A9>28,6E,29 24AA>28,6F,29 24AB>28,70,29 24AC>28,71,29 24AD>28,72,29 24AE>28,73,29
  24AF>28,74,29 24B0>28,75,29 24B1>28,76,29 24B2>28,77,29 24B3>28,78,29 24B4>28,79,29
  24B5>28,7A,29 2A74>3A,3A,3D 2A75>3D,3D 2A76>3D,3D,3D 309B>20,3099 309C>20,309A 3200>28,1100,29
  3201>28,1102,29 3202>28,1103,29 3203>28,1105,29 3204>28,1106,29 3205>28,1107,29
  3206>28,1109,29 3207>28,110B,29 3208>28,110C,29 3209>28,110E,29 320A>28,110F,29
  320B>28,1110,29 320C>28,1111,29 320D>28,1112,29 320E>28,AC00,29 320F>28,B098,29
  3210>28,B2E4,29 3211>28,B77C,29 3212>28,B9C8,29 3213>28,BC14,29 3214>28,C0AC,29
  3215>28,C544,29 3216>28,C790,29 3217>28,CC28,29 3218>28,CE74,29 3219>28,D0C0,29
  321A>28,D30C,29 321B>28,D558,29 321C>28,C8FC,29 321D>28,C624,C804,29 321E>28,C624,D6C4,29
  3220>28,4E00,29 3221>28,4E8C,29 3222>28,4E09,29 3223>28,56DB,29 3224>28,4E94,29
  3225>28,516D,29 3226>28,4E03,29 3227>28,516B,29 3228>28,4E5D,29 3229>28,5341,29
  322A>28,6708,29 322B>28,706B,29 322C>28,6C34,29 322D>28,6728,29 322E>28,91D1,29
  322F>28,571F,29 3230>28,65E5,29 3231>28,682A,29 3232>28,6709,29 3233>28,793E,29
  3234>28,540D,29 3235>28,7279,29 3236>28,8CA1,29 3237>28,795D,29 3238>28,52B4,29
  3239>28,4EE3,29 323A>28,547C,29 323B>28,5B66,29 323C>28,76E3,29 323D>28,4F01,29
  323E>28,8CC7,29 323F>28,5354,29 3240>28,796D,29 3241>28,4F11,29 3242>28,81EA,29
  3243>28,81F3,29 3250>70,74,65 3251>32,31 3252>32,32 3253>32,33 3254>32,34 3255>32,35
  3256>32,36 3257>32,37 3258>32,38 3259>32,39 325A>33,30 325B>33,31 325C>33,32 325D>33,33
  325E>33,34 325F>33,35 32B1>33,36 32B2>33,37 32B3>33,38 32B4>33,39 32B5>34,30 32B6>34,31
  32B7>34,32 32B8>34,33 32B9>34,34 32BA>34,35 32BB>34,36 32BC>34,37 32BD>34,38 32BE>34,39
  32BF>35,30 32C0>31,6708 32C1>32,6708 32C2>33,6708 32C3>34,6708 32C4>35,6708 32C5>36,6708
  32C6>37,6708 32C7>38,6708 32C8>39,6708 32C9>31,30,6708 32CA>31,31,6708 32CB>31,32,6708
  32CC>68,67 32CD>65,72,67 32CE>65,76 32CF>6C,74,64 3358>30,70B9 3359>31,70B9 335A>32,70B9
  335B>33,70B9 335C>34,70B9 335D>35,70B9 335E>36,70B9 335F>37,70B9 3360>38,70B9 3361>39,70B9
  3362>31,30,70B9 3363>31,31,70B9 3364>31,32,70B9 3365>31,33,70B9 3366>31,34,70B9
  3367>31,35,70B9 3368>31,36,70B9 3369>31,37,70B9 336A>31,38,70B9 336B>31,39,70B9
  336C>32,30,70B9 336D>32,31,70B9 336E>32,32,70B9 336F>32,33,70B9 3370>32,34,70B9 3371>68,70,61
  3372>64,61 3373>61,75 3374>62,61,72 3375>6F,76 3376>70,63 3377>64,6D 3378>64,6D,32
  3379>64,6D,33 337A>69,75 3380>70,61 3381>6E,61 3382>3BC,61 3383>6D,61 3384>6B,61 3385>6B,62
  3386>6D,62 3387>67,62 3388>63,61,6C 3389>6B,63,61,6C 338A>70,66 338B>6E,66 338C>3BC,66
  338D>3BC,67 338E>6D,67 338F>6B,67 3390>68,7A 3391>6B,68,7A 3392>6D,68,7A 3393>67,68,7A
  3394>74,68,7A 3395>3BC,6C 3396>6D,6C 3397>64,6C 3398>6B,6C 3399>66,6D 339A>6E,6D 339B>3BC,6D
  339C>6D,6D 339D>63,6D 339E>6B,6D 339F>6D,6D,32 33A0>63,6D,32 33A1>6D,32 33A2>6B,6D,32
  33A3>6D,6D,33 33A4>63,6D,33 33A5>6D,33 33A6>6B,6D,33 33A7>6D,2215,73 33A8>6D,2215,73,32
  33A9>70,61 33AA>6B,70,61 33AB>6D,70,61 33AC>67,70,61 33AD>72,61,64 33AE>72,61,64,2215,73
  33AF>72,61,64,2215,73,32 33B0>70,73 33B1>6E,73 33B2>3BC,73 33B3>6D,73 33B4>70,76 33B5>6E,76
  33B6>3BC,76 33B7>6D,76 33B8>6B,76 33B9>6D,76 33BA>70,77 33BB>6E,77 33BC>3BC,77 33BD>6D,77
  33BE>6B,77 33BF>6D,77 33C0>6B,3C9 33C1>6D,3C9 33C2>61,2E,6D,2E 33C3>62,71 33C4>63,63
  33C5>63,64 33C6>63,2215,6B,67 33C7>63,6F,2E 33C8>64,62 33C9>67,79 33CA>68,61 33CB>68,70
  33CC>69,6E 33CD>6B,6B 33CE>6B,6D 33CF>6B,74 33D0>6C,6D 33D1>6C,6E 33D2>6C,6F,67 33D3>6C,78
  33D4>6D,62 33D5>6D,69,6C 33D6>6D,6F,6C 33D7>70,68 33D8>70,2E,6D,2E 33D9>70,70,6D 33DA>70,72
  33DB>73,72 33DC>73,76 33DD>77,62 33DE>76,2215,6D 33DF>61,2215,6D 33E0>31,65E5 33E1>32,65E5
  33E2>33,65E5 33E3>34,65E5 33E4>35,65E5 33E5>36,65E5 33E6>37,65E5 33E7>38,65E5 33E8>39,65E5
  33E9>31,30,65E5 33EA>31,31,65E5 33EB>31,32,65E5 33EC>31,33,65E5 33ED>31,34,65E5
  33EE>31,35,65E5 33EF>31,36,65E5 33F0>31,37,65E5 33F1>31,38,65E5 33F2>31,39,65E5
  33F3>32,30,65E5 33F4>32,31,65E5 33F5>32,32,65E5 33F6>32,33,65E5 33F7>32,34,65E5
  33F8>32,35,65E5 33F9>32,36,65E5 33FA>32,37,65E5 33FB>32,38,65E5 33FC>32,39,65E5
  33FD>33,30,65E5 33FE>33,31,65E5 33FF>67,61,6C FB00>66,66 FB01>66,69 FB02>66,6C FB03>66,66,69
  FB04>66,66,6C FB05>73,74 FB06>73,74 FC5E>20,64C,651 FC5F>20,64D,651 FC60>20,64E,651
  FC61>20,64F,651 FC62>20,650,651 FC63>20,651,670
  FDFA>635,644,649,20,627,644,644,647,20,639,644,64A,647,20,648,633,644,645
  FDFB>62C,644,20,62C,644,627,644,647 FE19>2E,2E,2E FE30>2E,2E FE49>20,305 FE4A>20,305
  FE4B>20,305 FE4C>20,305 FE70>20,64B FE72>20,64C FE74>20,64D FE76>20,64E FE78>20,64F
  FE7A>20,650 FE7C>20,651 FE7E>20,652 FFE3>20,304 1F100>30,2E 1F101>30,2C 1F102>31,2C
  1F103>32,2C 1F104>33,2C 1F105>34,2C 1F106>35,2C 1F107>36,2C 1F108>37,2C 1F109>38,2C
  1F10A>39,2C 1F110>28,61,29 1F111>28,62,29 1F112>28,63,29 1F113>28,64,29 1F114>28,65,29
  1F115>28,66,29 1F116>28,67,29 1F117>28,68,29 1F118>28,69,29 1F119>28,6A,29 1F11A>28,6B,29
  1F11B>28,6C,29 1F11C>28,6D,29 1F11D>28,6E,29 1F11E>28,6F,29 1F11F>28,70,29 1F120>28,71,29
  1F121>28,72,29 1F122>28,73,29 1F123>28,74,29 1F124>28,75,29 1F125>28,76,29 1F126>28,77,29
  1F127>28,78,29 1F128>28,79,29 1F129>28,7A,29 1F12A>3014,73,3015 1F12D>63,64 1F12E>77,7A
  1F14A>68,76 1F14B>6D,76 1F14C>73,64 1F14D>73,73 1F14E>70,70,76 1F14F>77,63 1F16A>6D,63
  1F16B>6D,64 1F16C>6D,72 1F190>64,6A"

def dropped : CodeSet := CodeSet.ofText
  "AD 34F 180B..180D 180F 200B 2060 2064 FE00..FE0F FEFF E0100..E01EF"

def bidiRight : CodeSet := CodeSet.ofText
  "590 5BE 5C0 5C3 5C6 5C8..5FF 7C0..7EA 7F4..7F5 7FA..7FC 7FE..815 81A 824 828 82E..858 85C..85F
  200F FB1D FB1F..FB28 FB2A..FB4F 10800..1091E 10920..10A00 10A04 10A07..10A0B 10A10..10A37
  10A3B..10A3E 10A40..10AE4 10AE7..10B38 10B40..10CFF 10D40..10E5F 10E7F..10EAA 10EAD..10EBF
  10F00..10F2F 10F70..10F81 10F86..10FFF 1E800..1E8CF 1E8D7..1E943 1E94B..1EC6F 1ECC0..1ECFF
  1ED50..1EDFF 1EF00..1EFFF"

def bidiArabicLetter : CodeSet := CodeSet.ofText
  "608 60B 60D 61B..64A 66D..66F 671..6D5 6E5..6E6 6EE..6EF 6FA..710 712..72F 74B..7A5 7B1..7BF
  860..88F 892..897 8A0..8C9 FB50..FD3D FD50..FDCE FDF0..FDFC FE70..FEFE 10D00..10D23
  10D28..10D2F 10D3A..10D3F 10EC0..10EFC 10F30..10F45 10F51..10F6F 1EC70..1ECBF 1ED00..1ED4F
  1EE00..1EEEF 1EEF2..1EEFF"

def bidiArabicNumber : CodeSet := CodeSet.ofText
  "600..605 660..669 66B..66C 6DD 890..891 8E2 10D30..10D39 10E60..10E7E"

def bidiNumber : CodeSet := CodeSet.ofText
  "30..39 B2..B3 B9 6F0..6F9 2070 2074..2079 2080..2089 2488..249B FF10..FF19 102E1..102FB
  1D7CE..1D7FF 1F100..1F10A 1FBF0..1FBF9"

def bidiSeparator : CodeSet := CodeSet.ofText
  "2B 2D 207A..207B 208A..208B 2212 FB29 FE62..FE63 FF0B FF0D"

def bidiCommonSeparator : CodeSet := CodeSet.ofText
  "2C 2E..2F 3A A0 60C 202F 2044 FE50 FE52 FE55 FF0C FF0E..FF0F FF1A"

def bidiTerminator : CodeSet := CodeSet.ofText
  "23..25 A2..A5 B0..B1 58F 609..60A 66A 9F2..9F3 9FB AF1 BF9 E3F 17DB 2030..2034 20A0..20CF 212E
  2213 A838..A839 FE5F FE69..FE6A FF03..FF05 FFE0..FFE1 FFE5..FFE6 11FDD..11FE0 1E2FF"

/-- The writing direction class of other neutrals. -/
def bidiNeutral : CodeSet := CodeSet.ofText
  "21..22 26..2A 3B..40 5B..60 7B..7E A1 A6..A9 AB..AC AE..AF B4 B6..B8 BB..BF D7 F7 2B9..2BA
  2C2..2CF 2D2..2DF 2E5..2ED 2EF..2FF 374..375 37E 384..385 387 3F6 58A 58D..58E 606..607
  60E..60F 6DE 6E9 7F6..7F9 BF3..BF8 BFA C78..C7E F3A..F3D 1390..1399 1400 169B..169C 17F0..17F9
  1800..180A 1940 1944..1945 19DE..19FF 1FBD 1FBF..1FC1 1FCD..1FCF 1FDD..1FDF 1FED..1FEF
  1FFD..1FFE 2010..2027 2035..2043 2045..205E 207C..207E 208C..208E 2100..2101 2103..2106
  2108..2109 2114 2116..2118 211E..2123 2125 2127 2129 213A..213B 2140..2144 214A..214D
  2150..215F 2189..218B 2190..2211 2214..2335 237B..2394 2396..2426 2440..244A 2460..2487
  24EA..26AB 26AD..27FF 2900..2B73 2B76..2B95 2B97..2BFF 2CE5..2CEA 2CF9..2CFF 2E00..2E5D
  2E80..2E99 2E9B..2EF3 2F00..2FD5 2FF0..2FFB 3001..3004 3008..3020 3030 3036..3037 303D..303F
  309B..309C 30A0 30FB 31C0..31E3 321D..321E 3250..325F 327C..327E 32B1..32BF 32CC..32CF
  3377..337A 33DE..33DF 33FF 4DC0..4DFF A490..A4C6 A60D..A60F A673 A67E..A67F A700..A721 A788
  A828..A82B A874..A877 AB6A..AB6B FD3E..FD4F FDCF FDFD..FDFF FE10..FE19 FE30..FE4F FE51 FE54
  FE56..FE5E FE60..FE61 FE64..FE66 FE68 FE6B FF01..FF02 FF06..FF0A FF1B..FF20 FF3B..FF40
  FF5B..FF65 FFE2..FFE4 FFE8..FFEE FFF9..FFFD 10101 10140..1018C 10190..1019C 101A0 1091F
  10B39..10B3F 11052..11065 11660..1166C 11FD5..11FDC 11FE1..11FF1 16FE2 1D1E9..1D1EA
  1D200..1D241 1D245 1D300..1D356 1D6DB 1D715 1D74F 1D789 1D7C3 1EEF0..1EEF1 1F000..1F02B
  1F030..1F093 1F0A0..1F0AE 1F0B1..1F0BF 1F0C1..1F0CF 1F0D1..1F0F5 1F10B..1F10F 1F12F
  1F16A..1F16F 1F1AD 1F260..1F265 1F300..1F6D7 1F6DC..1F6EC 1F6F0..1F6FC 1F700..1F776
  1F77B..1F7D9 1F7E0..1F7EB 1F7F0 1F800..1F80B 1F810..1F847 1F850..1F859 1F860..1F887
  1F890..1F8AD 1F8B0..1F8B1 1F900..1FA53 1FA60..1FA6D 1FA70..1FA7C 1FA80..1FA88 1FA90..1FABD
  1FABF..1FAC5 1FACE..1FADB 1FAE0..1FAE8 1FAF0..1FAF8 1FB00..1FB92 1FB94..1FBCA"

def bidiBoundary : CodeSet := CodeSet.ofText
  "0..8 E..1B 7F..84 86..9F AD 180E 200B..200D 2060..2065 206A..206F FDD0..FDEF FEFF FFF0..FFF8
  FFFE..FFFF 1BCA0..1BCA3 1D173..1D17A 1FFFE..1FFFF 2FFFE..2FFFF 3FFFE..3FFFF 4FFFE..4FFFF
  5FFFE..5FFFF 6FFFE..6FFFF 7FFFE..7FFFF 8FFFE..8FFFF 9FFFE..9FFFF AFFFE..AFFFF BFFFE..BFFFF
  CFFFE..CFFFF DFFFE..E00FF E01F0..E0FFF EFFFE..EFFFF FFFFE..FFFFF 10FFFE..10FFFF"

def bidiMark : CodeSet := CodeSet.ofText
  "300..36F 483..489 591..5BD 5BF 5C1..5C2 5C4..5C5 5C7 610..61A 64B..65F 670 6D6..6DC 6DF..6E4
  6E7..6E8 6EA..6ED 711 730..74A 7A6..7B0 7EB..7F3 7FD 816..819 81B..823 825..827 829..82D
  859..85B 898..89F 8CA..8E1 8E3..902 93A 93C 941..948 94D 951..957 962..963 981 9BC 9C1..9C4
  9CD 9E2..9E3 9FE A01..A02 A3C A41..A42 A47..A48 A4B..A4D A51 A70..A71 A75 A81..A82 ABC
  AC1..AC5 AC7..AC8 ACD AE2..AE3 AFA..AFF B01 B3C B3F B41..B44 B4D B55..B56 B62..B63 B82 BC0 BCD
  C00 C04 C3C C3E..C40 C46..C48 C4A..C4D C55..C56 C62..C63 C81 CBC CCC..CCD CE2..CE3 D00..D01
  D3B..D3C D41..D44 D4D D62..D63 D81 DCA DD2..DD4 DD6 E31 E34..E3A E47..E4E EB1 EB4..EBC
  EC8..ECE F18..F19 F35 F37 F39 F71..F7E F80..F84 F86..F87 F8D..F97 F99..FBC FC6 102D..1030
  1032..1037 1039..103A 103D..103E 1058..1059 105E..1060 1071..1074 1082 1085..1086 108D 109D
  135D..135F 1712..1714 1732..1733 1752..1753 1772..1773 17B4..17B5 17B7..17BD 17C6 17C9..17D3
  17DD 180B..180D 180F 1885..1886 18A9 1920..1922 1927..1928 1932 1939..193B 1A17..1A18 1A1B
  1A56 1A58..1A5E 1A60 1A62 1A65..1A6C 1A73..1A7C 1A7F 1AB0..1ACE 1B00..1B03 1B34 1B36..1B3A
  1B3C 1B42 1B6B..1B73 1B80..1B81 1BA2..1BA5 1BA8..1BA9 1BAB..1BAD 1BE6 1BE8..1BE9 1BED
  1BEF..1BF1 1C2C..1C33 1C36..1C37 1CD0..1CD2 1CD4..1CE0 1CE2..1CE8 1CED 1CF4 1CF8..1CF9
  1DC0..1DFF 20D0..20F0 2CEF..2CF1 2D7F 2DE0..2DFF 302A..302D 3099..309A A66F..A672 A674..A67D
  A69E..A69F A6F0..A6F1 A802 A806 A80B A825..A826 A82C A8C4..A8C5 A8E0..A8F1 A8FF A926..A92D
  A947..A951 A980..A982 A9B3 A9B6..A9B9 A9BC..A9BD A9E5 AA29..AA2E AA31..AA32 AA35..AA36 AA43
  AA4C AA7C AAB0 AAB2..AAB4 AAB7..AAB8 AABE..AABF AAC1 AAEC..AAED AAF6 ABE5 ABE8 ABED FB1E
  FE00..FE0F FE20..FE2F 101FD 102E0 10376..1037A 10A01..10A03 10A05..10A06 10A0C..10A0F
  10A38..10A3A 10A3F 10AE5..10AE6 10D24..10D27 10EAB..10EAC 10EFD..10EFF 10F46..10F50
  10F82..10F85 11001 11038..11046 11070 11073..11074 1107F..11081 110B3..110B6 110B9..110BA
  110C2 11100..11102 11127..1112B 1112D..11134 11173 11180..11181 111B6..111BE 111C9..111CC
  111CF 1122F..11231 11234 11236..11237 1123E 11241 112DF 112E3..112EA 11300..11301 1133B..1133C
  11340 11366..1136C 11370..11374 11438..1143F 11442..11444 11446 1145E 114B3..114B8 114BA
  114BF..114C0 114C2..114C3 115B2..115B5 115BC..115BD 115BF..115C0 115DC..115DD 11633..1163A
  1163D 1163F..11640 116AB 116AD 116B0..116B5 116B7 1171D..1171F 11722..11725 11727..1172B
  1182F..11837 11839..1183A 1193B..1193C 1193E 11943 119D4..119D7 119DA..119DB 119E0
  11A01..11A06 11A09..11A0A 11A33..11A38 11A3B..11A3E 11A47 11A51..11A56 11A59..11A5B
  11A8A..11A96 11A98..11A99 11C30..11C36 11C38..11C3D 11C92..11CA7 11CAA..11CB0 11CB2..11CB3
  11CB5..11CB6 11D31..11D36 11D3A 11D3C..11D3D 11D3F..11D45 11D47 11D90..11D91 11D95 11D97
  11EF3..11EF4 11F00..11F01 11F36..11F3A 11F40 11F42 13440 13447..13455 16AF0..16AF4
  16B30..16B36 16F4F 16F8F..16F92 16FE4 1BC9D..1BC9E 1CF00..1CF2D 1CF30..1CF46 1D167..1D169
  1D17B..1D182 1D185..1D18B 1D1AA..1D1AD 1D242..1D244 1DA00..1DA36 1DA3B..1DA6C 1DA75 1DA84
  1DA9B..1DA9F 1DAA1..1DAAF 1E000..1E006 1E008..1E018 1E01B..1E021 1E023..1E024 1E026..1E02A
  1E08F 1E130..1E136 1E2AE 1E2EC..1E2EF 1E4EC..1E4EF 1E8D0..1E8D6 1E944..1E94A E0100..E01EF"

end TableSearch.Url
