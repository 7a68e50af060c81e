/-!
# Script extensions

The scripts that a scalar value is used in, for the scripts where this set is not the set of values
that have the script as their own.
Each row holds the names of a set, in lower case without separators, and the set itself: the
steps, in base sixteen, from one boundary of the set to the next, starting from zero.
-/

namespace Strata.Unicode

/-- The script extensions that differ from the script. -/
def scriptExtensions : List (List String × String) :=
  [
   (["adlm", "adlam"],
    "61f 1 20 1 1a0e 1 df1 1 1babe 4c 4 a 4 2"),
   (["aghb", "caucasianalbanian"],
    "304 1 2c 1 2c 1 101d1 34 b 1"),
   (["arab", "arabic"],
    "600 5 1 d7 1 22 50 30 f0 1f 1 2 5 4b 1 1d 174f 1 df1 1 cd0e 73 10 1bd 2 36 7 1 20 10 70 5
     1 87 3e3 1c b64 1f 43 3 37 4 df00 4 1 1b 1 2 1 1 2 1 1 a 1 4 1 1 1 1 6 1 4 1 1 1 1 1 1 3 1
     2 1 1 2 1 1 1 1 1 1 1 1 1 1 2 1 1 2 4 1 7 1 4 1 4 1 1 1 a 1 11 5 3 1 5 1 11 34 2"),
   (["armn", "armenian"],
    "308 1 228 26 2 32 2 3 f583 5"),
   (["avst", "avestan"],
    "b7 1 2d78 2 dcce 36 3 7"),
   (["beng", "bengali"],
    "2bc 1 694 2 11 2 1a 4 1 8 2 2 2 16 1 7 1 1 3 4 2 9 2 2 2 4 8 1 4 2 1 5 2 19 12d1 1 1 1 2 2
     1 1 8 1 8 1 2 1 4 1 2 3 8bf9 1"),
   (["bopo", "bopomofo"],
    "2c7 1 1 3 d 1 10 2 2d15 3 4 a 1 d a 4 2 1 6 1 c3 1 9 2b 70 20 cc85 2 11a 5"),
   (["bugi", "buginese"],
    "1a00 1c 2 2 8faf 1"),
   (["buhd", "buhid"],
    "1735 2 9 14"),
   (["cakm", "chakma"],
    "9e6 a 650 a 100b6 35 1 12"),
   (["cari", "carian"],
    "b7 1 1fa2 1 2 1 dd3 1 d46e 31"),
   (["cher", "cherokee"],
    "300 3 1 1 6 2 16 2 b 2 106e 56 2 6 9772 50"),
   (["copt", "coptic", "qaac"],
    "b7 1 248 1 3 2 1 1 6c 2 6c e 2890 74 5 7 117 1 d4c8 1c"),
   (["cpmn", "cyprominoan"],
    "10100 2 2e8e 63"),
   (["cprt", "cypriot"],
    "10100 3 4 2d 3 9 6c0 6 2 1 1 2c 1 2 3 1 2 1"),
   (["cyrl", "cyrillic"],
    "2bc 1 43 3 1 1 1 1 1 1 2 1 5 1 ee 130 1750 b a0 1 4c 1 7f 1 fe7 20 43 1 77fc 60 578e 2
     e200 3e 21 1"),
   (["deva", "devanagari"],
    "2bc 1 643 53 2 2b 1350 27 1 2 3f6 1 873f a a6 20 7200 a"),
   (["dogr", "dogra"],
    "964 c 9ec0 a 6fc6 3c"),
   (["dupl", "duployan"],
    "b7 1 24f 2 1 1 18 2 2b17 1 18dc3 6b 5 d 3 9 7 a 2 8"),
   (["elba", "elbasan"],
    "b7 1 24d 1 101fa 28"),
   (["ethi", "ethiopic"],
    "30e 1 ef1 49 1 4 2 7 1 1 1 4 2 29 1 4 2 21 1 4 2 7 1 1 1 4 2 f 1 39 1 4 2 43 2 20 3 1a
     19e6 17 9 7 1 7 1 7 1 7 1 7 1 7 1 7 1 7 7d22 6 2 6 2 6 9 7 1 7 13cb1 7 1 4 1 2 1 f"),
   (["gara", "garay"],
    "60c 1 e 1 3 1 10720 26 3 1d 8 2"),
   (["geor", "georgian"],
    "b7 1 4d1 1 b16 26 1 1 5 1 2 30 b90 2b 2 3 39a 1 ca5 26 1 1 5 1 103 1"),
   (["glag", "glagolitic"],
    "b7 1 24b 1 1 1 17e 1 2 1 101 1 b71 1 f5e 1 ba5 60 1e3 1 782b 1 13990 7 1 11 2 7 1 2 1 5"),
   (["gong", "gunjalagondi"],
    "b7 1 8ac 2 113fa 6 1 2 1 25 1 2 1 6 7 a"),
   (["gonm", "masaramgondi"],
    "964 2 1139a 7 1 2 1 2c 3 1 1 2 1 9 8 a"),
   (["goth", "gothic"],
    "b7 1 24c 2 2 1 28 1 fffe 1b"),
   (["gran", "grantha"],
    "951 2 11 2 280 e 10dc 1 1 2 1e 3 3 2 3f6 1 f20f 4 1 8 2 2 2 16 1 7 1 2 1 5 1 a 2 2 2 3 2 1
     6 1 5 7 2 7 3 5 c5b 2 1 1"),
   (["grek", "greek"],
    "b7 1 248 2 2 1 1 1 1 1 a 1 2e 1 2 1 2a 8 2 4 1 1 4 1 1 1 1 3 1 1 1 14 1 3f e 10 1926 5 32
     5 4 5 54 3 13e 16 2 6 2 26 2 6 2 8 1 1 1 1 1 1 1 1f 2 35 1 f 1 e 2 6 1 13 2 3 1 9 5e 1 c8
     1 8a3e 1 55da 4f 11 1 d05f 46"),
   (["gujr", "gujarati"],
    "951 2 11 2 11b 3 1 9 1 3 1 16 1 7 1 2 1 5 2 a 1 3 1 3 2 1 f 4 2 c 7 7 9d30 a"),
   (["gukh", "gurungkhema"],
    "965 1 1579a 3a"),
   (["guru", "gurmukhi"],
    "951 2 11 2 9b 3 1 6 4 2 2 16 1 7 1 2 1 2 1 2 2 1 1 5 4 2 2 3 3 1 7 4 1 1 7 11 9db9 a"),
   (["hang", "hangul"],
    "1100 100 1e01 3 4 a 1 d e 3 6 1 c3 1 35 5e 71 1f 41 1f 76e1 1d 283 2ba4 c 17 4 31 2649 2
     11a 5 3a 1f 3 6 2 6 2 6 2 3"),
   (["hani", "han"],
    "b7 1 2dc8 1a 1 59 c d6 1a 10 1 3 1 d 1 d 1 d 2 1 6 9 bb 1 94 10 20 26 9 1 30 28 38 31 f c
     33 1 58 19 a 5 60 1f 1 19c0 40 5200 700 8 51f8 16e 2 6a 36b 2 11a 5 707c 2 c 2 636e 12
     1ede 2 dae a6e0 20 103a 6 de 2 1682 e 1d31 f 26e 9a2 21e 5e2 134b 5 1060"),
   (["hano", "hanunoo"],
    "1720 17"),
   (["hebr", "hebrew"],
    "307 2 288 37 8 1b 4 6 f528 1a 1 5 1 1 1 2 1 2 1 a"),
   (["hira", "hiragana"],
    "3001 3 4 a 1 d 10 6 1 1 4 2 3 56 2 8 5a 2 cd48 2 11a 5 a 1 2d 2 b061 11f 12 1 1d 3 40ad 1"),
   (["hung", "oldhungarian"],
    "205a 1 2 1 dd3 1 f 1 de3e 33 d 33 7 6"),
   (["java", "javanese"],
    "a980 4e 1 b 4 2"),
   (["kali", "kayahli"],
    "a900 30"),
   (["kana", "katakana"],
    "305 1 1d 1 2cdd 3 4 a 1 d 10 6 1 1 4 2 5b 4 3 60 f0 10 d0 2f 1 58 caed 2 11a 3f b050 4 1 7
     1 2 1 1 11f 3 32 1 e 4"),
   (["khoj", "khojki"],
    "ae6 a 9d40 a 69c6 12 1 2f"),
   (["knda", "kannada"],
    "951 2 11 2 31a d 1 3 1 17 1 a 1 5 2 9 1 3 1 4 7 2 6 2 1 4 2 a 1 3 fdc 1 1 2 6 1 17 1 1 1
     8b3b 6"),
   (["kthi", "kaithi"],
    "966 a 24c1 1 79fe a 6846 43 a 1"),
   (["latn", "latin"],
    "41 1a 6 1a 2f 1 c 1 2 1 5 17 1 1f 1 1c1 3 1 a 1 1 3 1 1 9 1 1 1 6 5 1b f 1 2 1 1 c 1 2 3 7
     2 1 2 26 1 5 1 4 d 115 2 4ca 2 7a8 1 c04 26 6 31 5 4 5 d 1 46 39 1 7 100 12f 1 41 1 d 1 10
     d 53 1 39 2 6 1 1b 1 11 29 ad7 20 197 1 78e8 8 1a 66 3 43 2 2 1 1 1 8 15 e 12e 1 201 2b 1
     9 1 4 4f96 7 41a 1a 6 1a 825 6 1 2a 1 9 d745 1f 6 6"),
   (["limb", "limbu"],
    "965 1 f9a 1f 1 c 4 c 4 1 3 c"),
   (["lina", "lineara"],
    "10107 2d 4cc 137 9 16 a 8"),
   (["linb", "linearb"],
    "10000 c 1 1a 1 13 1 2 1 f 2 e 22 7b 5 3 4 2d 3 9"),
   (["lisu"],
    "2bc 1 10 1 2d3c 2 74c4 30 7ab0 1"),
   (["lyci", "lycian"],
    "205a 1 e225 1d"),
   (["lydi", "lydian"],
    "b7 1 2d79 1 daee 1a 5 1"),
   (["mahj", "mahajani"],
    "b7 1 8ac c 9ec0 a 6916 27"),
   (["mand", "mandaic"],
    "640 1 1ff 1c 2 1"),
   (["mani", "manichaean"],
    "640 1 1047f 27 4 c"),
   (["mero", "meroitichieroglyphs"],
    "205d 1 e922 20"),
   (["mlym", "malayalam"],
    "951 2 11 2 39a d 1 3 1 33 1 3 1 6 4 10 2 1a f5a 1 17 1 8b3d 3"),
   (["modi"],
    "a830 a 6dc6 45 b a"),
   (["mong", "mongolian"],
    "1800 1a 6 59 7 2b 784 1 fd1 2 5 4 e654 d"),
   (["mult", "multani"],
    "a66 a 10810 7 1 1 1 4 1 f 1 b"),
   (["mymr", "myanmar"],
    "1000 a0 988e 1 b1 1f 61 20 6c50 14"),
   (["nand", "nandinagari"],
    "964 2 380 a ff9 1 8 1 7 1 8b35 6 716a 8 2 2e 2 b"),
   (["nkoo", "nko"],
    "60c 1 e 1 3 1 1a0 3b 2 3 f53e 2"),
   (["onao", "olonal"],
    "964 2 1dc6a 2b 4 1"),
   (["orkh", "oldturkic"],
    "205a 1 dd5 1 ddcf 49"),
   (["orya", "oriya"],
    "951 2 11 2 19b 3 1 8 2 2 2 16 1 7 1 2 1 5 2 9 2 2 2 3 7 3 4 2 1 5 2 12 1162 1 17 1"),
   (["osge", "osage"],
    "301 1 2 1 6 1 4c 1 10157 24 4 24"),
   (["ougr", "olduyghur"],
    "640 1 104b1 1 47d 1a"),
   (["perm", "oldpermic"],
    "b7 1 248 1 5 3 a 1 16f 1 fecc 2b"),
   (["phag", "phagspa"],
    "1802 2 1 1 829 1 fd2 1 783d 38"),
   (["phlp", "psalterpahlavi"],
    "640 1 1053f 12 7 4 c 7"),
   (["rohg", "hanifirohingya"],
    "60c 1 e 1 3 1 20 1 93 1 1062b 28 8 a"),
   (["runr", "runic"],
    "16a0 59"),
   (["samr", "samaritan"],
    "800 2e 2 f 25f2 1"),
   (["shaw", "shavian"],
    "b7 1 10398 30"),
   (["shrd", "sharada"],
    "951 1 1385 1 1 1 2 2 2 1 f49f 60"),
   (["sind", "khudawadi"],
    "964 2 9eca a 6a76 3b 5 a"),
   (["sinh", "sinhala"],
    "964 2 41b 3 1 12 3 18 1 9 1 1 2 7 3 1 4 6 1 1 1 8 6 a 2 3 efd 1 f4ee 14"),
   (["sogd", "sogdian"],
    "640 1 108ef 2a"),
   (["sunu", "sunuwar"],
    "300 2 1 1 9 1 2 1 1c 1 3 1 1188e 22 e a"),
   (["sylo", "sylotinagri"],
    "964 2 80 a 9e10 2d"),
   (["syrc", "syriac"],
    "303 2 2 2 1 1 15 1 2 3 7 2 1 1 2db 1 e 2 2 1 20 1 a b 1a 1 8f e 1 3c 2 3 110 b 158d 1 1 1"),
   (["tagb", "tagbanwa"],
    "1735 2 29 d 1 3 1 2"),
   (["takr", "takri"],
    "964 2 9eca a 6e46 3a 6 a"),
   (["tale", "taile"],
    "300 2 5 2 3 1 d33 a 906 1e 2 5"),
   (["taml", "tamil"],
    "951 2 11 2 21c 2 1 6 3 3 1 4 3 2 1 1 1 2 3 2 3 3 3 c 4 5 3 3 1 4 2 1 6 1 e 15 10df 1 8c18
     1 6a0d 1 1 1 37 2 c83 32 d 1"),
   (["tang", "tangut"],
    "2ff0 10 1ef 1 13df0 1 1f 17f8 8 300 200 9"),
   (["telu", "telugu"],
    "951 2 11 2 29a d 1 3 1 17 1 10 2 9 1 3 1 4 7 2 1 3 2 1 2 4 2 a 7 9 105a 1 17 1"),
   (["tfng", "tifinagh"],
    "302 1 1 1 2 1 1 1 2a26 38 7 2 e 1"),
   (["tglg", "tagalog"],
    "1700 16 9 1 15 2"),
   (["thaa", "thaana"],
    "60c 1 e 2 2 1 40 a 116 32 f640 1 a 1"),
   (["thai"],
    "2bc 1 1a 1 2b 1 2d 1 acf 3a 5 1c"),
   (["tibt", "tibetan"],
    "f00 48 1 24 4 27 1 24 1 f 1 7 4 2 202d 4"),
   (["tirh", "tirhuta"],
    "951 2 11 2 138c 1 8b3d a 6c46 48 8 a"),
   (["todr", "todhri"],
    "301 1 2 1 2 1 9 1 1 1 4a 1 10261 34"),
   (["toto"],
    "2bc 1 1dfd3 1f"),
   (["tutg", "tulutigalari"],
    "ce6 a 1002 1 1 1 8b3b 6 bb 1 6a8e a 1 1 2 1 1 26 1 a 1 1 2 1 1 4 1 a 1 2 8 2"),
   (["yezi", "yezidi"],
    "60c 1 e 1 3 1 40 a 10816 2a 1 3 2 2"),
   (["yiii", "yi"],
    "3001 2 5 a 2 8 df 1 6f04 48d 3 37 5a9a 5"),
   (["zinh", "inherited", "qaai"],
    "30f 1 2 1 1 c 1 2 3 7 2 1 2 10 1 2 1 12 1 5 1 4 5f0 2 115b 1f 2f3 36 1 1 1 5 20c 2 c2 20
     dd10 10 10 e 3cf 1 cd02 2e 2 17 220 3 11 8 2 7 1e 4 c2f52 f0"),
   (["zyyy", "common"],
    "0 41 1a 6 1a 2f 1 c 1 2 1 5 17 1 1f 1 1c1 3 1 a 1 1 3 1 1 9 1 1 1 6 5 5 2 14 7e 1 6 1 1 1
     27d 1 d7 1 204 1 55c 1 195 4 1027 c 2 21 1 1f 1 a 1 2 1 7 1 b 3 b 1 f 11 21 3f 26 1 3 2 6
     1 1b 1 11 29 3 4 29a 16 b 15 3a0 100 274 2 20 1 69 200 17 1 18 2 a 1 4 1 1 1 1a 1a2 1 3 1
     d 1 d 1 15 1 211 18 1f 1 31 f c 4 a1 a 5 60 1f 1 19c0 40 5908 1a 66 3 3d0 1 e 2 52a4 a 16
     15 2 c 1 13 1 4 93 1 1 20 1a 6 1a 6 7f 7 1 7 a 5 192 d 33 2d ca03 fa 6 1b4 9c 74 3c f6 a
     27 2 3e 3 11 8 2 7 1e 4 3d d5 14 c 14 c 57 1b 7 87 55 1 47 1 2 2 1 2 2 2 4 1 c 1 1 1 7 1
     41 1 4 2 8 1 7 1 1c 1 4 1 5 1 1 3 7 1 154 2 124 2 32 1471 44 4c 3d 2c2 2c 4 64 c f 2 f 1 f
     1 25 a ae 38 1a 1 2 d 2c 4 9 17 6 9a 3d8 4 11 3 d 3 77 4 5f 6 c 4 1 f c 4 38 8 a 6 28 8 1e
     2 c 4 2 3e 154 c e 2 d 3 a 5 38 7 f 2 b 6 9 7 93 1 66 c0407 1 1e 60")]

end Strata.Unicode
