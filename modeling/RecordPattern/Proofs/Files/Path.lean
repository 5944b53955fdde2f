import RecordPattern.Files.Path

namespace RecordPattern.Files.Path

variable {path : Path} {c : Char}

end RecordPattern.Files.Path
