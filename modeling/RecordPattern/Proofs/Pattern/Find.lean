import RecordPattern.Proofs.Pattern.Assignment

namespace RecordPattern.Pattern

end RecordPattern.Pattern
