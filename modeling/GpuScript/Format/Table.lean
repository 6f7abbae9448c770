import GpuScript.Format.Basic
import GpuScript.SortedTable

/-!
# The table of formats

The formats that a script can name, in the order of their names, and the two ways to find one: by
its name, or by the size, mode and number of the parts of a vector.
-/

namespace GpuScript.Format

/-- The formats that a script can name, in the order of their names. -/
def all : Array Format :=
  #[
  ⟨"A1R5G5B5_UNORM_PACK16", 8, some 16,
    [⟨1, .a, .unorm⟩, ⟨5, .r, .unorm⟩, ⟨5, .g, .unorm⟩, ⟨5, .b, .unorm⟩]⟩,
  ⟨"A2B10G10R10_SINT_PACK32", 69, some 32,
    [⟨2, .a, .sint⟩, ⟨10, .b, .sint⟩, ⟨10, .g, .sint⟩, ⟨10, .r, .sint⟩]⟩,
  ⟨"A2B10G10R10_SNORM_PACK32", 65, some 32,
    [⟨2, .a, .snorm⟩, ⟨10, .b, .snorm⟩, ⟨10, .g, .snorm⟩, ⟨10, .r, .snorm⟩]⟩,
  ⟨"A2B10G10R10_SSCALED_PACK32", 67, some 32,
    [⟨2, .a, .sscaled⟩, ⟨10, .b, .sscaled⟩, ⟨10, .g, .sscaled⟩, ⟨10, .r, .sscaled⟩]⟩,
  ⟨"A2B10G10R10_UINT_PACK32", 68, some 32,
    [⟨2, .a, .uint⟩, ⟨10, .b, .uint⟩, ⟨10, .g, .uint⟩, ⟨10, .r, .uint⟩]⟩,
  ⟨"A2B10G10R10_UNORM_PACK32", 64, some 32,
    [⟨2, .a, .unorm⟩, ⟨10, .b, .unorm⟩, ⟨10, .g, .unorm⟩, ⟨10, .r, .unorm⟩]⟩,
  ⟨"A2B10G10R10_USCALED_PACK32", 66, some 32,
    [⟨2, .a, .uscaled⟩, ⟨10, .b, .uscaled⟩, ⟨10, .g, .uscaled⟩, ⟨10, .r, .uscaled⟩]⟩,
  ⟨"A2R10G10B10_SINT_PACK32", 63, some 32,
    [⟨2, .a, .sint⟩, ⟨10, .r, .sint⟩, ⟨10, .g, .sint⟩, ⟨10, .b, .sint⟩]⟩,
  ⟨"A2R10G10B10_SNORM_PACK32", 59, some 32,
    [⟨2, .a, .snorm⟩, ⟨10, .r, .snorm⟩, ⟨10, .g, .snorm⟩, ⟨10, .b, .snorm⟩]⟩,
  ⟨"A2R10G10B10_SSCALED_PACK32", 61, some 32,
    [⟨2, .a, .sscaled⟩, ⟨10, .r, .sscaled⟩, ⟨10, .g, .sscaled⟩, ⟨10, .b, .sscaled⟩]⟩,
  ⟨"A2R10G10B10_UINT_PACK32", 62, some 32,
    [⟨2, .a, .uint⟩, ⟨10, .r, .uint⟩, ⟨10, .g, .uint⟩, ⟨10, .b, .uint⟩]⟩,
  ⟨"A2R10G10B10_UNORM_PACK32", 58, some 32,
    [⟨2, .a, .unorm⟩, ⟨10, .r, .unorm⟩, ⟨10, .g, .unorm⟩, ⟨10, .b, .unorm⟩]⟩,
  ⟨"A2R10G10B10_USCALED_PACK32", 60, some 32,
    [⟨2, .a, .uscaled⟩, ⟨10, .r, .uscaled⟩, ⟨10, .g, .uscaled⟩, ⟨10, .b, .uscaled⟩]⟩,
  ⟨"A8B8G8R8_SINT_PACK32", 56, some 32,
    [⟨8, .a, .sint⟩, ⟨8, .b, .sint⟩, ⟨8, .g, .sint⟩, ⟨8, .r, .sint⟩]⟩,
  ⟨"A8B8G8R8_SNORM_PACK32", 52, some 32,
    [⟨8, .a, .snorm⟩, ⟨8, .b, .snorm⟩, ⟨8, .g, .snorm⟩, ⟨8, .r, .snorm⟩]⟩,
  ⟨"A8B8G8R8_SRGB_PACK32", 57, some 32,
    [⟨8, .a, .srgb⟩, ⟨8, .b, .srgb⟩, ⟨8, .g, .srgb⟩, ⟨8, .r, .srgb⟩]⟩,
  ⟨"A8B8G8R8_SSCALED_PACK32", 54, some 32,
    [⟨8, .a, .sscaled⟩, ⟨8, .b, .sscaled⟩, ⟨8, .g, .sscaled⟩, ⟨8, .r, .sscaled⟩]⟩,
  ⟨"A8B8G8R8_UINT_PACK32", 55, some 32,
    [⟨8, .a, .uint⟩, ⟨8, .b, .uint⟩, ⟨8, .g, .uint⟩, ⟨8, .r, .uint⟩]⟩,
  ⟨"A8B8G8R8_UNORM_PACK32", 51, some 32,
    [⟨8, .a, .unorm⟩, ⟨8, .b, .unorm⟩, ⟨8, .g, .unorm⟩, ⟨8, .r, .unorm⟩]⟩,
  ⟨"A8B8G8R8_USCALED_PACK32", 53, some 32,
    [⟨8, .a, .uscaled⟩, ⟨8, .b, .uscaled⟩, ⟨8, .g, .uscaled⟩, ⟨8, .r, .uscaled⟩]⟩,
  ⟨"B10G11R11_UFLOAT_PACK32", 122, some 32,
    [⟨10, .b, .ufloat⟩, ⟨11, .g, .ufloat⟩, ⟨11, .r, .ufloat⟩]⟩,
  ⟨"B4G4R4A4_UNORM_PACK16", 3, some 16,
    [⟨4, .b, .unorm⟩, ⟨4, .g, .unorm⟩, ⟨4, .r, .unorm⟩, ⟨4, .a, .unorm⟩]⟩,
  ⟨"B5G5R5A1_UNORM_PACK16", 7, some 16,
    [⟨5, .b, .unorm⟩, ⟨5, .g, .unorm⟩, ⟨5, .r, .unorm⟩, ⟨1, .a, .unorm⟩]⟩,
  ⟨"B5G6R5_UNORM_PACK16", 5, some 16,
    [⟨5, .b, .unorm⟩, ⟨6, .g, .unorm⟩, ⟨5, .r, .unorm⟩]⟩,
  ⟨"B8G8R8A8_SINT", 49, none,
    [⟨8, .b, .sint⟩, ⟨8, .g, .sint⟩, ⟨8, .r, .sint⟩, ⟨8, .a, .sint⟩]⟩,
  ⟨"B8G8R8A8_SNORM", 45, none,
    [⟨8, .b, .snorm⟩, ⟨8, .g, .snorm⟩, ⟨8, .r, .snorm⟩, ⟨8, .a, .snorm⟩]⟩,
  ⟨"B8G8R8A8_SRGB", 50, none,
    [⟨8, .b, .srgb⟩, ⟨8, .g, .srgb⟩, ⟨8, .r, .srgb⟩, ⟨8, .a, .srgb⟩]⟩,
  ⟨"B8G8R8A8_SSCALED", 47, none,
    [⟨8, .b, .sscaled⟩, ⟨8, .g, .sscaled⟩, ⟨8, .r, .sscaled⟩, ⟨8, .a, .sscaled⟩]⟩,
  ⟨"B8G8R8A8_UINT", 48, none,
    [⟨8, .b, .uint⟩, ⟨8, .g, .uint⟩, ⟨8, .r, .uint⟩, ⟨8, .a, .uint⟩]⟩,
  ⟨"B8G8R8A8_UNORM", 44, none,
    [⟨8, .b, .unorm⟩, ⟨8, .g, .unorm⟩, ⟨8, .r, .unorm⟩, ⟨8, .a, .unorm⟩]⟩,
  ⟨"B8G8R8A8_USCALED", 46, none,
    [⟨8, .b, .uscaled⟩, ⟨8, .g, .uscaled⟩, ⟨8, .r, .uscaled⟩, ⟨8, .a, .uscaled⟩]⟩,
  ⟨"B8G8R8_SINT", 35, none,
    [⟨8, .b, .sint⟩, ⟨8, .g, .sint⟩, ⟨8, .r, .sint⟩]⟩,
  ⟨"B8G8R8_SNORM", 31, none,
    [⟨8, .b, .snorm⟩, ⟨8, .g, .snorm⟩, ⟨8, .r, .snorm⟩]⟩,
  ⟨"B8G8R8_SRGB", 36, none,
    [⟨8, .b, .srgb⟩, ⟨8, .g, .srgb⟩, ⟨8, .r, .srgb⟩]⟩,
  ⟨"B8G8R8_SSCALED", 33, none,
    [⟨8, .b, .sscaled⟩, ⟨8, .g, .sscaled⟩, ⟨8, .r, .sscaled⟩]⟩,
  ⟨"B8G8R8_UINT", 34, none,
    [⟨8, .b, .uint⟩, ⟨8, .g, .uint⟩, ⟨8, .r, .uint⟩]⟩,
  ⟨"B8G8R8_UNORM", 30, none,
    [⟨8, .b, .unorm⟩, ⟨8, .g, .unorm⟩, ⟨8, .r, .unorm⟩]⟩,
  ⟨"B8G8R8_USCALED", 32, none,
    [⟨8, .b, .uscaled⟩, ⟨8, .g, .uscaled⟩, ⟨8, .r, .uscaled⟩]⟩,
  ⟨"D16_UNORM", 124, none,
    [⟨16, .d, .unorm⟩]⟩,
  ⟨"D16_UNORM_S8_UINT", 128, none,
    [⟨16, .d, .unorm⟩, ⟨8, .s, .uint⟩]⟩,
  ⟨"D24_UNORM_S8_UINT", 129, none,
    [⟨24, .d, .unorm⟩, ⟨8, .s, .uint⟩]⟩,
  ⟨"D32_SFLOAT", 126, none,
    [⟨32, .d, .sfloat⟩]⟩,
  ⟨"D32_SFLOAT_S8_UINT", 130, none,
    [⟨32, .d, .sfloat⟩, ⟨8, .s, .uint⟩]⟩,
  ⟨"R16G16B16A16_SFLOAT", 97, none,
    [⟨16, .r, .sfloat⟩, ⟨16, .g, .sfloat⟩, ⟨16, .b, .sfloat⟩, ⟨16, .a, .sfloat⟩]⟩,
  ⟨"R16G16B16A16_SINT", 96, none,
    [⟨16, .r, .sint⟩, ⟨16, .g, .sint⟩, ⟨16, .b, .sint⟩, ⟨16, .a, .sint⟩]⟩,
  ⟨"R16G16B16A16_SNORM", 92, none,
    [⟨16, .r, .snorm⟩, ⟨16, .g, .snorm⟩, ⟨16, .b, .snorm⟩, ⟨16, .a, .snorm⟩]⟩,
  ⟨"R16G16B16A16_SSCALED", 94, none,
    [⟨16, .r, .sscaled⟩, ⟨16, .g, .sscaled⟩, ⟨16, .b, .sscaled⟩, ⟨16, .a, .sscaled⟩]⟩,
  ⟨"R16G16B16A16_UINT", 95, none,
    [⟨16, .r, .uint⟩, ⟨16, .g, .uint⟩, ⟨16, .b, .uint⟩, ⟨16, .a, .uint⟩]⟩,
  ⟨"R16G16B16A16_UNORM", 91, none,
    [⟨16, .r, .unorm⟩, ⟨16, .g, .unorm⟩, ⟨16, .b, .unorm⟩, ⟨16, .a, .unorm⟩]⟩,
  ⟨"R16G16B16A16_USCALED", 93, none,
    [⟨16, .r, .uscaled⟩, ⟨16, .g, .uscaled⟩, ⟨16, .b, .uscaled⟩, ⟨16, .a, .uscaled⟩]⟩,
  ⟨"R16G16B16_SFLOAT", 90, none,
    [⟨16, .r, .sfloat⟩, ⟨16, .g, .sfloat⟩, ⟨16, .b, .sfloat⟩]⟩,
  ⟨"R16G16B16_SINT", 89, none,
    [⟨16, .r, .sint⟩, ⟨16, .g, .sint⟩, ⟨16, .b, .sint⟩]⟩,
  ⟨"R16G16B16_SNORM", 85, none,
    [⟨16, .r, .snorm⟩, ⟨16, .g, .snorm⟩, ⟨16, .b, .snorm⟩]⟩,
  ⟨"R16G16B16_SSCALED", 87, none,
    [⟨16, .r, .sscaled⟩, ⟨16, .g, .sscaled⟩, ⟨16, .b, .sscaled⟩]⟩,
  ⟨"R16G16B16_UINT", 88, none,
    [⟨16, .r, .uint⟩, ⟨16, .g, .uint⟩, ⟨16, .b, .uint⟩]⟩,
  ⟨"R16G16B16_UNORM", 84, none,
    [⟨16, .r, .unorm⟩, ⟨16, .g, .unorm⟩, ⟨16, .b, .unorm⟩]⟩,
  ⟨"R16G16B16_USCALED", 86, none,
    [⟨16, .r, .uscaled⟩, ⟨16, .g, .uscaled⟩, ⟨16, .b, .uscaled⟩]⟩,
  ⟨"R16G16_SFLOAT", 83, none,
    [⟨16, .r, .sfloat⟩, ⟨16, .g, .sfloat⟩]⟩,
  ⟨"R16G16_SINT", 82, none,
    [⟨16, .r, .sint⟩, ⟨16, .g, .sint⟩]⟩,
  ⟨"R16G16_SNORM", 78, none,
    [⟨16, .r, .snorm⟩, ⟨16, .g, .snorm⟩]⟩,
  ⟨"R16G16_SSCALED", 80, none,
    [⟨16, .r, .sscaled⟩, ⟨16, .g, .sscaled⟩]⟩,
  ⟨"R16G16_UINT", 81, none,
    [⟨16, .r, .uint⟩, ⟨16, .g, .uint⟩]⟩,
  ⟨"R16G16_UNORM", 77, none,
    [⟨16, .r, .unorm⟩, ⟨16, .g, .unorm⟩]⟩,
  ⟨"R16G16_USCALED", 79, none,
    [⟨16, .r, .uscaled⟩, ⟨16, .g, .uscaled⟩]⟩,
  ⟨"R16_SFLOAT", 76, none,
    [⟨16, .r, .sfloat⟩]⟩,
  ⟨"R16_SINT", 75, none,
    [⟨16, .r, .sint⟩]⟩,
  ⟨"R16_SNORM", 71, none,
    [⟨16, .r, .snorm⟩]⟩,
  ⟨"R16_SSCALED", 73, none,
    [⟨16, .r, .sscaled⟩]⟩,
  ⟨"R16_UINT", 74, none,
    [⟨16, .r, .uint⟩]⟩,
  ⟨"R16_UNORM", 70, none,
    [⟨16, .r, .unorm⟩]⟩,
  ⟨"R16_USCALED", 72, none,
    [⟨16, .r, .uscaled⟩]⟩,
  ⟨"R32G32B32A32_SFLOAT", 109, none,
    [⟨32, .r, .sfloat⟩, ⟨32, .g, .sfloat⟩, ⟨32, .b, .sfloat⟩, ⟨32, .a, .sfloat⟩]⟩,
  ⟨"R32G32B32A32_SINT", 108, none,
    [⟨32, .r, .sint⟩, ⟨32, .g, .sint⟩, ⟨32, .b, .sint⟩, ⟨32, .a, .sint⟩]⟩,
  ⟨"R32G32B32A32_UINT", 107, none,
    [⟨32, .r, .uint⟩, ⟨32, .g, .uint⟩, ⟨32, .b, .uint⟩, ⟨32, .a, .uint⟩]⟩,
  ⟨"R32G32B32_SFLOAT", 106, none,
    [⟨32, .r, .sfloat⟩, ⟨32, .g, .sfloat⟩, ⟨32, .b, .sfloat⟩]⟩,
  ⟨"R32G32B32_SINT", 105, none,
    [⟨32, .r, .sint⟩, ⟨32, .g, .sint⟩, ⟨32, .b, .sint⟩]⟩,
  ⟨"R32G32B32_UINT", 104, none,
    [⟨32, .r, .uint⟩, ⟨32, .g, .uint⟩, ⟨32, .b, .uint⟩]⟩,
  ⟨"R32G32_SFLOAT", 103, none,
    [⟨32, .r, .sfloat⟩, ⟨32, .g, .sfloat⟩]⟩,
  ⟨"R32G32_SINT", 102, none,
    [⟨32, .r, .sint⟩, ⟨32, .g, .sint⟩]⟩,
  ⟨"R32G32_UINT", 101, none,
    [⟨32, .r, .uint⟩, ⟨32, .g, .uint⟩]⟩,
  ⟨"R32_SFLOAT", 100, none,
    [⟨32, .r, .sfloat⟩]⟩,
  ⟨"R32_SINT", 99, none,
    [⟨32, .r, .sint⟩]⟩,
  ⟨"R32_UINT", 98, none,
    [⟨32, .r, .uint⟩]⟩,
  ⟨"R4G4B4A4_UNORM_PACK16", 2, some 16,
    [⟨4, .r, .unorm⟩, ⟨4, .g, .unorm⟩, ⟨4, .b, .unorm⟩, ⟨4, .a, .unorm⟩]⟩,
  ⟨"R4G4_UNORM_PACK8", 1, some 8,
    [⟨4, .r, .unorm⟩, ⟨4, .g, .unorm⟩]⟩,
  ⟨"R5G5B5A1_UNORM_PACK16", 6, some 16,
    [⟨5, .r, .unorm⟩, ⟨5, .g, .unorm⟩, ⟨5, .b, .unorm⟩, ⟨1, .a, .unorm⟩]⟩,
  ⟨"R5G6B5_UNORM_PACK16", 4, some 16,
    [⟨5, .r, .unorm⟩, ⟨6, .g, .unorm⟩, ⟨5, .b, .unorm⟩]⟩,
  ⟨"R64G64B64A64_SFLOAT", 121, none,
    [⟨64, .r, .sfloat⟩, ⟨64, .g, .sfloat⟩, ⟨64, .b, .sfloat⟩, ⟨64, .a, .sfloat⟩]⟩,
  ⟨"R64G64B64A64_SINT", 120, none,
    [⟨64, .r, .sint⟩, ⟨64, .g, .sint⟩, ⟨64, .b, .sint⟩, ⟨64, .a, .sint⟩]⟩,
  ⟨"R64G64B64A64_UINT", 119, none,
    [⟨64, .r, .uint⟩, ⟨64, .g, .uint⟩, ⟨64, .b, .uint⟩, ⟨64, .a, .uint⟩]⟩,
  ⟨"R64G64B64_SFLOAT", 118, none,
    [⟨64, .r, .sfloat⟩, ⟨64, .g, .sfloat⟩, ⟨64, .b, .sfloat⟩]⟩,
  ⟨"R64G64B64_SINT", 117, none,
    [⟨64, .r, .sint⟩, ⟨64, .g, .sint⟩, ⟨64, .b, .sint⟩]⟩,
  ⟨"R64G64B64_UINT", 116, none,
    [⟨64, .r, .uint⟩, ⟨64, .g, .uint⟩, ⟨64, .b, .uint⟩]⟩,
  ⟨"R64G64_SFLOAT", 115, none,
    [⟨64, .r, .sfloat⟩, ⟨64, .g, .sfloat⟩]⟩,
  ⟨"R64G64_SINT", 114, none,
    [⟨64, .r, .sint⟩, ⟨64, .g, .sint⟩]⟩,
  ⟨"R64G64_UINT", 113, none,
    [⟨64, .r, .uint⟩, ⟨64, .g, .uint⟩]⟩,
  ⟨"R64_SFLOAT", 112, none,
    [⟨64, .r, .sfloat⟩]⟩,
  ⟨"R64_SINT", 111, none,
    [⟨64, .r, .sint⟩]⟩,
  ⟨"R64_UINT", 110, none,
    [⟨64, .r, .uint⟩]⟩,
  ⟨"R8G8B8A8_SINT", 42, none,
    [⟨8, .r, .sint⟩, ⟨8, .g, .sint⟩, ⟨8, .b, .sint⟩, ⟨8, .a, .sint⟩]⟩,
  ⟨"R8G8B8A8_SNORM", 38, none,
    [⟨8, .r, .snorm⟩, ⟨8, .g, .snorm⟩, ⟨8, .b, .snorm⟩, ⟨8, .a, .snorm⟩]⟩,
  ⟨"R8G8B8A8_SRGB", 43, none,
    [⟨8, .r, .srgb⟩, ⟨8, .g, .srgb⟩, ⟨8, .b, .srgb⟩, ⟨8, .a, .srgb⟩]⟩,
  ⟨"R8G8B8A8_SSCALED", 40, none,
    [⟨8, .r, .sscaled⟩, ⟨8, .g, .sscaled⟩, ⟨8, .b, .sscaled⟩, ⟨8, .a, .sscaled⟩]⟩,
  ⟨"R8G8B8A8_UINT", 41, none,
    [⟨8, .r, .uint⟩, ⟨8, .g, .uint⟩, ⟨8, .b, .uint⟩, ⟨8, .a, .uint⟩]⟩,
  ⟨"R8G8B8A8_UNORM", 37, none,
    [⟨8, .r, .unorm⟩, ⟨8, .g, .unorm⟩, ⟨8, .b, .unorm⟩, ⟨8, .a, .unorm⟩]⟩,
  ⟨"R8G8B8A8_USCALED", 39, none,
    [⟨8, .r, .uscaled⟩, ⟨8, .g, .uscaled⟩, ⟨8, .b, .uscaled⟩, ⟨8, .a, .uscaled⟩]⟩,
  ⟨"R8G8B8_SINT", 28, none,
    [⟨8, .r, .sint⟩, ⟨8, .g, .sint⟩, ⟨8, .b, .sint⟩]⟩,
  ⟨"R8G8B8_SNORM", 24, none,
    [⟨8, .r, .snorm⟩, ⟨8, .g, .snorm⟩, ⟨8, .b, .snorm⟩]⟩,
  ⟨"R8G8B8_SRGB", 29, none,
    [⟨8, .r, .srgb⟩, ⟨8, .g, .srgb⟩, ⟨8, .b, .srgb⟩]⟩,
  ⟨"R8G8B8_SSCALED", 26, none,
    [⟨8, .r, .sscaled⟩, ⟨8, .g, .sscaled⟩, ⟨8, .b, .sscaled⟩]⟩,
  ⟨"R8G8B8_UINT", 27, none,
    [⟨8, .r, .uint⟩, ⟨8, .g, .uint⟩, ⟨8, .b, .uint⟩]⟩,
  ⟨"R8G8B8_UNORM", 23, none,
    [⟨8, .r, .unorm⟩, ⟨8, .g, .unorm⟩, ⟨8, .b, .unorm⟩]⟩,
  ⟨"R8G8B8_USCALED", 25, none,
    [⟨8, .r, .uscaled⟩, ⟨8, .g, .uscaled⟩, ⟨8, .b, .uscaled⟩]⟩,
  ⟨"R8G8_SINT", 21, none,
    [⟨8, .r, .sint⟩, ⟨8, .g, .sint⟩]⟩,
  ⟨"R8G8_SNORM", 17, none,
    [⟨8, .r, .snorm⟩, ⟨8, .g, .snorm⟩]⟩,
  ⟨"R8G8_SRGB", 22, none,
    [⟨8, .r, .srgb⟩, ⟨8, .g, .srgb⟩]⟩,
  ⟨"R8G8_SSCALED", 19, none,
    [⟨8, .r, .sscaled⟩, ⟨8, .g, .sscaled⟩]⟩,
  ⟨"R8G8_UINT", 20, none,
    [⟨8, .r, .uint⟩, ⟨8, .g, .uint⟩]⟩,
  ⟨"R8G8_UNORM", 16, none,
    [⟨8, .r, .unorm⟩, ⟨8, .g, .unorm⟩]⟩,
  ⟨"R8G8_USCALED", 18, none,
    [⟨8, .r, .uscaled⟩, ⟨8, .g, .uscaled⟩]⟩,
  ⟨"R8_SINT", 14, none,
    [⟨8, .r, .sint⟩]⟩,
  ⟨"R8_SNORM", 10, none,
    [⟨8, .r, .snorm⟩]⟩,
  ⟨"R8_SRGB", 15, none,
    [⟨8, .r, .srgb⟩]⟩,
  ⟨"R8_SSCALED", 12, none,
    [⟨8, .r, .sscaled⟩]⟩,
  ⟨"R8_UINT", 13, none,
    [⟨8, .r, .uint⟩]⟩,
  ⟨"R8_UNORM", 9, none,
    [⟨8, .r, .unorm⟩]⟩,
  ⟨"R8_USCALED", 11, none,
    [⟨8, .r, .uscaled⟩]⟩,
  ⟨"S8_UINT", 127, none,
    [⟨8, .s, .uint⟩]⟩,
  ⟨"X8_D24_UNORM_PACK32", 125, some 32,
    [⟨8, .x, .unorm⟩, ⟨24, .d, .unorm⟩]⟩]

/-- The formats by name. -/
def table : SortedTable Format where
  key := Format.name
  entries := all
  sorted := by decide +kernel

/-- The format with a name. -/
def ofName? (name : String) : Option Format :=
  table.find? name

/-- The first format in the table that keeps a vector of the given shape. -/
def ofVector? (bits : Nat) (mode : Mode) (count : Nat) : Option Format :=
  all.toList.find? (isVector bits mode count)

end GpuScript.Format
