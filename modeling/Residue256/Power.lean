namespace Residue256

variable {α : Type}

-- Without this the same bound is another term in a module that imports an algebra library.
@[default_instance 20000]
instance (priority := 20000) corePow [NatPow α] : Pow α Nat := instPowNat

end Residue256
