/-!
# Error numbers

The values of the hosted program's error status that the library sets.
-/

namespace StubLibc.Errno

def io : Int32 := 5

/-- A descriptor that is not open for writing. -/
def badDescriptor : Int32 := 9

def noMemory : Int32 := 12

def invalid : Int32 := 22

/-- A value too large for its type. -/
def overflow : Int32 := 75

end StubLibc.Errno
