/-!
# Additions

The sets of the other tables follow version 16.0 of the standard, as the classes of patterns do. The
names in patterns and the texts in messages follow version 17.0. Here is what that version adds: the
new characters that are alphabetic, the new numbers, and the new characters that show on their own.
Each row holds the name of a set and the set itself: the steps, in base sixteen, from one boundary
of the set to the next, starting from zero.
-/

namespace Strata.Unicode

/-- The characters of version 17.0 that earlier versions have not assigned. -/
def additions : List (List String × String) :=
  [
   (["alphabetic"],
    "88f 1 3cc 1 7f 1 9af1 2 2 1 1 1 1c 1 614e 1a 56b 3 32 2 c64 8 248 2c 50c4 19 2 19 11e 5
     1801 8 509 16 61 73 58cd 1f 1 16 8 2 d03a 6 1762 c 5502 10ca"),
   (["number"],
    "11de0 a 520a 3"),
   (["visible"],
    "88f 1 3cc 1 7f 1 13e4 1 ad4 1 7c37 2 2 1 1 1 1c 1 53d1 10 1bd 2 36 7 b71 1a 56b 3 8 9 c88
     1 3 1 1 1 248 2c 4 a 50b6 19 2 19 11e 5 1801 8 509 16 61 73 3f07 3 1bd 17 f 11 17cf 1f 1 3
     1 2 1 7 2 5 9 2 fd8 1 9e 4 155 9 17b 4 32 1 3 1 39 1 4 1 1c 1 4 1 10a 1 bb3f 6 1762 c 5502
     10ca")]

end Strata.Unicode
